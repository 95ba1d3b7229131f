import PortableAirplay.Config
import PortableAirplay.Library.Execution
import PortableAirplay.Library.SerialNumber
import PortableAirplay.Library.PriorityQueue
import PortableAirplay.Library.Custody
import PortableAirplay.Library.BigEndian
import PortableAirplay.Library.Bits
import PortableAirplay.Library.BoundedWriter
import PortableAirplay.Library.CheckedMemory
import PortableAirplay.Library.DnsMessage
import PortableAirplay.Library.Walk
import PortableAirplay.Library.CompressedNames
import PortableAirplay.Library.Framing
import PortableAirplay.Library.Rounding
import PortableAirplay.Library.Recorded
import PortableAirplay.Library.RtpFormat
import PortableAirplay.Platform.Net
import PortableAirplay.Protocol.Rtp
import PortableAirplay.Protocol.RtpReceiver
import PortableAirplay.Protocol.RtpPackets
import PortableAirplay.Audio.Playout
import PortableAirplay.Audio.PlayoutRefinement
import PortableAirplay.Audio.PlayoutFloor
import PortableAirplay.Audio.PlayoutInvariant
import PortableAirplay.Audio.BufferedAudio
import PortableAirplay.Audio.BufferedStream
import PortableAirplay.Audio.BufferedTransport
import PortableAirplay.Airplay.Pairing
import PortableAirplay.Airplay.PairedChannel
import PortableAirplay.Sync.NtpSync
import PortableAirplay.Sync.NtpExchange
import PortableAirplay.Sync.NtpReplies
import PortableAirplay.Sync.NtpAccuracy
import PortableAirplay.Util.Text
import PortableAirplay.Protocol.RtspRequest
import PortableAirplay.Protocol.Sdp
import PortableAirplay.Protocol.SdpInForce
import PortableAirplay.Protocol.Base64Decoding
import PortableAirplay.Protocol.SdpCipher
import PortableAirplay.Protocol.Bplist
import PortableAirplay.Protocol.BplistReading
import PortableAirplay.Protocol.BplistWriting
import PortableAirplay.Protocol.Mdns
import PortableAirplay.Protocol.MdnsNames
import PortableAirplay.Protocol.MdnsQueries
import PortableAirplay.Protocol.MdnsRecords
import PortableAirplay.Protocol.MdnsAnnouncement
import PortableAirplay.Airplay.AirplayDiscovery
import PortableAirplay.Airplay.Fairplay
import PortableAirplay.Airplay.PairSetup
import PortableAirplay.Airplay.PairSetupRun
import PortableAirplay.Airplay.TlvMessages
import PortableAirplay.Sync.PtpSync
import PortableAirplay.Sync.PtpSamples
import PortableAirplay.Sync.PtpRejected
import PortableAirplay.Sync.PtpRange
import PortableAirplay.Protocol.RtspState
import PortableAirplay.Airplay.AirplayRtsp
import PortableAirplay.Airplay.HeaderParameters
import PortableAirplay.Audio.AudioPipeline
import PortableAirplay.Audio.AacDecoding
import PortableAirplay.Audio.AccessUnits
import PortableAirplay.Audio.AlacDecoding
import PortableAirplay.Audio.RiceHistory
import PortableAirplay.Audio.RiceBounds
import PortableAirplay.Audio.RiceOverflow
import PortableAirplay.Audio.PipelinePoll
import PortableAirplay.Airplay.Airplay2
import PortableAirplay.Audio.PipelineRun
import PortableAirplay.Audio.PlayedOnce
import PortableAirplay.Audio.QueueRoom
import PortableAirplay.Audio.SamePlayback
import PortableAirplay.Audio.SessionStart
import PortableAirplay.Protocol.RtspServer
import PortableAirplay.Protocol.Answers
import PortableAirplay.Protocol.SentAnswers
import PortableAirplay.Protocol.RequestEffect
import PortableAirplay.Protocol.AuthenticatedRequests
import PortableAirplay.Protocol.StreamOwnership
import PortableAirplay.Protocol.Fragmentation
import PortableAirplay.Protocol.Refusals
import PortableAirplay.Protocol.Conversation
import PortableAirplay.Protocol.RequestBytes
import PortableAirplay.Protocol.Wire
import PortableAirplay.Protocol.SealedRecords
import PortableAirplay.Protocol.SealedRequests
import PortableAirplay.Protocol.ReceiveRoom
import PortableAirplay.Protocol.RequestGrammar
import PortableAirplay.Service.Admission
import PortableAirplay.Service.Advertising
import PortableAirplay.Service.AirplayServer
import PortableAirplay.Service.BackPressure
import PortableAirplay.Service.Boundaries
import PortableAirplay.Service.SeekRecords
import PortableAirplay.Service.SessionIsolation
import PortableAirplay.Service.SessionCipher
import PortableAirplay.Library.PredictiveCoding
import PortableAirplay.Audio.AlacSamples
import PortableAirplay.Audio.AlacOutputSize
import PortableAirplay.Audio.AlacEncoding
import PortableAirplay.Audio.RiceRoundTrip
import PortableAirplay.Audio.PredictorRoundTrip
import PortableAirplay.Audio.AlacLossless
import PortableAirplay.Audio.PayloadDecoding
import PortableAirplay.Audio.DecodingRun
import PortableAirplay.Audio.SessionRun
import PortableAirplay.Service.RecordedPlayback
import PortableAirplay.Service.WhileRecording
import PortableAirplay.Service.ForeignHosts
import PortableAirplay.Library.Leases
import PortableAirplay.Platform.Resources
import PortableAirplay.Protocol.RtspSockets
import PortableAirplay.Audio.PipelineResources
import PortableAirplay.Service.Lifecycle
import PortableAirplay.Library.Transfer
import PortableAirplay.Platform.LinuxAudio
import PortableAirplay.Platform.PosixNet
import PortableAirplay.Protocol.SendsOverNet
import PortableAirplay.Platform.AppleAudio
import PortableAirplay.Platform.WindowsAudio
