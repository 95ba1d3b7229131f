/-!
# Computations that keep a record

A computation on a state that records entries while it runs: the operations it performs,
the resources it uses. The entries have no influence on the run.

Two kinds of statements about such computations have rules for sequencing. `Meets` bounds
a computation from above: from every state, all entries are admissible and the value
satisfies a postcondition. `Gives` and `Shows` follow it exactly: from a state of a given
kind it ends with a given value, or records a given entry. `Runs` does both: it ends with a
given value, and all entries on the way are admissible.
-/

set_option autoImplicit false

namespace PortableAirplay.Library

universe u v w

/-- What a run leaves. -/
structure Outcome (σ : Type u) (ω : Type v) (α : Type w) where
  value : α
  state : σ
  log : List ω

/-- Computations on states `σ` that record entries `ω`. -/
def Recorded (σ : Type u) (ω : Type v) (α : Type w) := σ → Outcome σ ω α

namespace Recorded

variable {σ : Type u} {ω : Type v} {α β : Type w}

instance : Monad (Recorded σ ω) where
  pure a := fun s => ⟨a, s, []⟩
  bind m f := fun s =>
    let first := m s
    let second := f first.value first.state
    ⟨second.value, second.state, first.log ++ second.log⟩

/-- Record entries. -/
def record (entries : List ω) : Recorded σ ω PUnit := fun s => ⟨⟨⟩, s, entries⟩

theorem bind_assoc (m : Recorded σ ω α) (f : α → Recorded σ ω β) {γ : Type w}
    (g : β → Recorded σ ω γ) : m >>= f >>= g = m >>= fun a => f a >>= g := by
  funext s
  have hlog : ((m >>= f >>= g) s).log = ((m >>= fun a => f a >>= g) s).log :=
    List.append_assoc _ _ _
  show (⟨_, _, ((m >>= f >>= g) s).log⟩ : Outcome σ ω γ) = _
  rw [hlog]
  rfl

theorem id_map (m : Recorded σ ω α) : id <$> m = m := by
  funext s
  show (⟨(m s).value, (m s).state, (m s).log ++ []⟩ : Outcome σ ω α) = m s
  rw [List.append_nil]

instance : LawfulMonad (Recorded σ ω) :=
  LawfulMonad.mk' (Recorded σ ω) id_map (fun _ _ => rfl) fun m f g => bind_assoc m f g

theorem bind_log (m : Recorded σ ω α) (f : α → Recorded σ ω β) (s : σ) :
    ((m >>= f) s).log = (m s).log ++ (f (m s).value (m s).state).log := rfl

/-! ## Bounds -/

/-- From every state, all entries are admissible and the value satisfies `post`. -/
def Meets (ok : ω → Prop) (m : Recorded σ ω α) (post : α → Prop) : Prop :=
  ∀ s, (∀ e ∈ (m s).log, ok e) ∧ post (m s).value

section Meets

variable {ok : ω → Prop} {m : Recorded σ ω α} {f : α → Recorded σ ω β} {post : α → Prop}
  {post' : β → Prop}

theorem meets_return {a : α} (h : post a) : Meets ok (pure a : Recorded σ ω α) post :=
  fun _ => ⟨fun _ he => absurd he List.not_mem_nil, h⟩

theorem meets_record {entries : List ω} (h : ∀ e ∈ entries, ok e) :
    Meets ok (record entries : Recorded σ ω PUnit) fun _ => True := fun _ => ⟨h, trivial⟩

theorem meets_record_one {e : ω} (h : ok e) :
    Meets ok (record [e] : Recorded σ ω PUnit) fun _ => True :=
  meets_record (List.forall_mem_singleton.mpr h)

/-- **Sequencing**: the second computation is bounded for every value of the first. -/
theorem Meets.bind (hm : Meets ok m post) (hf : ∀ a, post a → Meets ok (f a) post') :
    Meets ok (m >>= f) post' := by
  intro s
  obtain ⟨hfirst, hvalue⟩ := hm s
  obtain ⟨hsecond, hend⟩ := hf _ hvalue (m s).state
  refine ⟨fun e he => ?_, hend⟩
  rcases List.mem_append.mp he with hin | hin
  · exact hfirst e hin
  · exact hsecond e hin

theorem Meets.mono {post'' : α → Prop} (h : Meets ok m post) (hpost : ∀ a, post a → post'' a) :
    Meets ok m post'' := fun s => ⟨(h s).1, hpost _ (h s).2⟩

/-- A postcondition that holds whatever the entries are. -/
theorem Meets.and {post'' : α → Prop} (h : Meets ok m post)
    (hpost : Meets (fun _ => True) m post'') : Meets ok m fun a => post a ∧ post'' a :=
  fun s => ⟨(h s).1, (h s).2, (hpost s).2⟩

theorem Meets.ite {p : Prop} [Decidable p] {n : Recorded σ ω α} (hm : p → Meets ok m post)
    (hn : ¬ p → Meets ok n post) : Meets ok (if p then m else n) post := by
  split
  · rename_i h
    exact hm h
  · rename_i h
    exact hn h

/-- A continuation is used at the values of the first computation only. -/
theorem Meets.bind_congr {g : α → Recorded σ ω β} (hm : Meets ok m post)
    (h : ∀ a, post a → f a = g a) : m >>= f = m >>= g := by
  funext s
  have hvalue : f (m s).value = g (m s).value := h _ (hm s).2
  show (⟨(f (m s).value (m s).state).value, (f (m s).value (m s).state).state,
    (m s).log ++ (f (m s).value (m s).state).log⟩ : Outcome σ ω β) = _
  rw [hvalue]
  rfl

/-- Nothing is asked of the entries and of the value. -/
theorem meets_true : Meets (fun _ => True) m fun _ => True :=
  fun _ => ⟨fun _ _ => trivial, trivial⟩

end Meets

/-! ## Runs from a precondition -/

/-- From a state that satisfies `pre`, the value and the state satisfy `post`. -/
def Leads (pre : σ → Prop) (m : Recorded σ ω α) (post : α → σ → Prop) : Prop :=
  ∀ s, pre s → post (m s).value (m s).state

section Leads

variable {pre pre' : σ → Prop} {m : Recorded σ ω α} {f : α → Recorded σ ω β}
  {q : α → σ → Prop} {post : β → σ → Prop}

theorem leads_return {q : α → σ → Prop} {a : α} (h : ∀ s, pre s → q a s) :
    Leads pre (pure a : Recorded σ ω α) q := h

theorem leads_record {entries : List ω} :
    Leads pre (record entries : Recorded σ ω PUnit) fun _ => pre := fun _ h => h

/-- **Sequencing**: the second computation starts where the first one ends. -/
theorem Leads.bind (hm : Leads pre m q) (hf : ∀ a, Leads (q a) (f a) post) :
    Leads pre (m >>= f) post := fun s h => hf _ _ (hm s h)

theorem Leads.mono {q' : α → σ → Prop} (hm : Leads pre m q)
    (hpost : ∀ a s, q a s → q' a s) : Leads pre m q' := fun s h => hpost _ _ (hm s h)

theorem Leads.and {q' : α → σ → Prop} (hm : Leads pre m q) (hm' : Leads pre' m q') :
    Leads (fun s => pre s ∧ pre' s) m fun a s => q a s ∧ q' a s :=
  fun s h => ⟨hm s h.1, hm' s h.2⟩

/-- Nothing is asked of the end. -/
theorem leads_true : Leads pre m fun _ _ => True := fun _ _ => trivial

theorem Leads.weaken (hm : Leads pre m q) (hpre : ∀ s, pre' s → pre s) : Leads pre' m q :=
  fun s h => hm s (hpre s h)

theorem Leads.ite {p : Prop} [Decidable p] {n : Recorded σ ω α} (hm : p → Leads pre m q)
    (hn : ¬ p → Leads pre n q) : Leads pre (if p then m else n) q := by
  split
  · rename_i h
    exact hm h
  · rename_i h
    exact hn h

end Leads

/-! ## Exact runs -/

/-- From a state that satisfies `pre`, the value is `a` and the state satisfies `post`. -/
def Gives (pre : σ → Prop) (m : Recorded σ ω α) (a : α) (post : σ → Prop) : Prop :=
  ∀ s, pre s → (m s).value = a ∧ post (m s).state

/-- From a state that satisfies `pre`, the entry is recorded. -/
def Shows (pre : σ → Prop) (m : Recorded σ ω α) (e : ω) : Prop := ∀ s, pre s → e ∈ (m s).log

section Exact

variable {pre mid post : σ → Prop} {m : Recorded σ ω α} {f : α → Recorded σ ω β} {a : α} {b : β}
  {e : ω}

theorem gives_return (a : α) : Gives pre (pure a : Recorded σ ω α) a pre := fun _ h => ⟨rfl, h⟩

theorem gives_record (entries : List ω) :
    Gives pre (record entries : Recorded σ ω PUnit) ⟨⟩ pre := fun _ h => ⟨rfl, h⟩

theorem Gives.bind (hm : Gives pre m a mid) (hf : Gives mid (f a) b post) :
    Gives pre (m >>= f) b post := by
  intro s h
  obtain ⟨hvalue, hmid⟩ := hm s h
  have hrest := hf _ hmid
  rw [← hvalue] at hrest
  exact hrest

theorem shows_record {entries : List ω} (h : e ∈ entries) :
    Shows pre (record entries : Recorded σ ω PUnit) e := fun _ _ => h

/-- What the first computation records is recorded. -/
theorem Shows.first (h : Shows pre m e) : Shows pre (m >>= f) e := by
  intro s hs
  rw [bind_log]
  exact List.mem_append_left _ (h s hs)

/-- What the second computation records, from where the first one ends, is recorded. -/
theorem Gives.shows (hm : Gives pre m a mid) (hf : Shows mid (f a) e) :
    Shows pre (m >>= f) e := by
  intro s h
  obtain ⟨hvalue, hmid⟩ := hm s h
  have hrest := hf _ hmid
  rw [← hvalue] at hrest
  rw [bind_log]
  exact List.mem_append_right _ hrest

end Exact

/-- From a state that satisfies `pre`, all entries are admissible, the value is `a` and the state
satisfies `post`. -/
def Runs (ok : ω → Prop) (pre : σ → Prop) (m : Recorded σ ω α) (a : α) (post : σ → Prop) : Prop :=
  ∀ s, pre s → (∀ e ∈ (m s).log, ok e) ∧ (m s).value = a ∧ post (m s).state

section Runs

variable {ok : ω → Prop} {pre mid post : σ → Prop} {m : Recorded σ ω α} {f : α → Recorded σ ω β}
  {a : α} {b : β}

theorem runs_return (a : α) : Runs ok pre (pure a : Recorded σ ω α) a pre :=
  fun _ h => ⟨fun _ he => absurd he List.not_mem_nil, rfl, h⟩

/-- An exact run of a computation with admissible entries. -/
theorem Gives.runs {q : α → Prop} (h : Gives pre m a post) (hm : Meets ok m q) :
    Runs ok pre m a post := fun s hs => ⟨(hm s).1, h s hs⟩

/-- **Sequencing**: the entries of both computations are admissible. -/
theorem Runs.bind (hm : Runs ok pre m a mid) (hf : Runs ok mid (f a) b post) :
    Runs ok pre (m >>= f) b post := by
  intro s h
  obtain ⟨hfirst, hvalue, hmid⟩ := hm s h
  have hrest := hf _ hmid
  rw [← hvalue] at hrest
  obtain ⟨hsecond, hend⟩ := hrest
  refine ⟨fun e he => ?_, hend⟩
  rw [bind_log] at he
  rcases List.mem_append.mp he with hin | hin
  · exact hfirst e hin
  · exact hsecond e hin

end Runs

end Recorded

end PortableAirplay.Library
