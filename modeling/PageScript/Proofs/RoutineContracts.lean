import PageScript.Proofs.RoutineFaults

namespace PageScript.Routine

variable {σ α β : Type}

/-- From the states of `P`, the routine comes to a value and a state of `Q`, or to a fault and a
state of `E`. -/
structure Leads (P : σ → Prop) (routine : Routine σ α) (Q : α → σ → Prop) (E : Fault → σ → Prop) :
    Prop where
  value : ∀ s a, P s → (routine s).value = .ok a → Q a (routine s).state
  fault : ∀ s fault, P s → (routine s).value = .error fault → E fault (routine s).state

variable {P P' : σ → Prop} {Q Q' : α → σ → Prop} {R : β → σ → Prop} {E E' : Fault → σ → Prop}
  {routine : Routine σ α}

theorem Leads.imp (h : Leads P routine Q E) (hP : ∀ s, P' s → P s) (hQ : ∀ a s, Q a s → Q' a s)
    (hE : ∀ fault s, E fault s → E' fault s) : Leads P' routine Q' E' where
  value s a hs hvalue := hQ a _ (h.value s a (hP s hs) hvalue)
  fault s fault hs hfault := hE fault _ (h.fault s fault (hP s hs) hfault)

theorem Leads.of_imp (h : Leads P routine Q E) (hP : ∀ s, P' s → P s) : Leads P' routine Q E :=
  h.imp hP (fun _ _ => id) fun _ _ => id

/-- What does not depend on the state is known throughout the routine. -/
theorem Leads.assuming {φ : Prop} (h : φ → Leads P routine Q E) :
    Leads (fun s => φ ∧ P s) routine Q E where
  value s a hs hvalue := (h hs.1).value s a hs.2 hvalue
  fault s fault hs hfault := (h hs.1).fault s fault hs.2 hfault

theorem Leads.pure (a : α) : Leads (Q a) (pure a) Q E where
  value _ _ hs hvalue := Except.ok.inj hvalue ▸ hs
  fault _ _ _ hfault := nomatch hfault

theorem Leads.done (a : α) (P : σ → Prop) (E : Fault → σ → Prop) :
    Leads P (Pure.pure a : Routine σ α) (fun _ => P) E where
  value _ _ hs _ := hs
  fault _ _ _ hfault := nomatch hfault

theorem Leads.log (level : LogLevel) (message : Text) (P : σ → Prop) (E : Fault → σ → Prop) :
    Leads P (log level message) (fun _ => P) E where
  value _ _ hs _ := hs
  fault _ _ _ hfault := nomatch hfault

theorem Leads.read (f : σ → α) (P : σ → Prop) (E : Fault → σ → Prop) :
    Leads P (read f) (fun a s => f s = a ∧ P s) E where
  value _ _ hs hvalue := ⟨Except.ok.inj hvalue, hs⟩
  fault _ _ _ hfault := nomatch hfault

theorem Leads.change (f : σ → σ) (P : σ → Prop) (E : Fault → σ → Prop) :
    Leads (fun s => P (f s)) (change f) (fun _ => P) E where
  value _ _ hs _ := hs
  fault _ _ _ hfault := nomatch hfault

theorem Leads.fail (failure : Failure) (E : Fault → σ → Prop) :
    Leads (E (.failure failure)) (fail failure) Q E where
  value _ _ _ hvalue := nomatch hvalue
  fault _ _ hs hfault := Except.error.inj hfault ▸ hs

theorem Leads.bind {first : Routine σ α} {next : α → Routine σ β} (hfirst : Leads P first Q E)
    (hnext : ∀ a, Leads (Q a) (next a) R E) : Leads P (first >>= next) R E := by
  constructor
  · intro s b hs hvalue
    obtain ⟨a, hfirstValue, hthen⟩ := value_bind_eq_ok hvalue
    rw [bind_of_ok hfirstValue]
    exact (hnext a).value _ b (hfirst.value s a hs hfirstValue) hthen
  · intro s fault hs h
    rcases value_bind_eq_error h with hfault | ⟨a, ha, hfault⟩
    · rw [bind_of_error hfault]
      exact hfirst.fault s fault hs hfault
    · rw [bind_of_ok ha]
      exact (hnext a).fault _ fault (hfirst.value s a hs ha) hfault

/-- A failure is known where the handling of it begins; an interrupt is not handled. -/
theorem Leads.orElse {handle : Failure → Routine σ α} (h : Leads P routine Q E')
    (hhandle : ∀ failure, Leads (E' (.failure failure)) (handle failure) Q E)
    (hinterrupt : ∀ message s, E' (.interrupt message) s → E (.interrupt message) s) :
    Leads P (routine.orElse handle) Q E := by
  have houtcome : Leads P routine.outcome (fun ended s => (∀ a, ended = .ok a → Q a s) ∧
      ∀ failure, ended = .error failure → E' (.failure failure) s) E := by
    constructor
    · intro s ended hs hvalue
      rw [outcome_state]
      have hended := value_of_outcome_eq_ok hvalue
      constructor
      · rintro a rfl
        exact h.value s a hs hended
      · rintro failure rfl
        exact h.fault s _ hs hended
    · intro s fault hs hfault
      rw [outcome_state]
      obtain ⟨hvalue, message, rfl⟩ := value_of_outcome_eq_error hfault
      exact hinterrupt message _ (h.fault s _ hs hvalue)
  refine houtcome.bind fun ended => ?_
  cases ended with
  | ok a => exact (Leads.pure a).of_imp fun s hs => hs.1 a rfl
  | error failure => exact (hhandle failure).of_imp fun s hs => hs.2 failure rfl

theorem Leads.preserves {I : σ → Prop} (h : Leads I routine (fun _ => I) fun _ => I) {s : σ}
    (hs : I s) : I (routine s).state := by
  cases hvalue : (routine s).value with
  | ok a => exact h.value s a hs hvalue
  | error fault => exact h.fault s fault hs hvalue

theorem Leads.exists_value {s : σ} (h : Leads P routine Q fun _ _ => False) (hs : P s) :
    ∃ a, (routine s).value = .ok a ∧ Q a (routine s).state := by
  cases hvalue : (routine s).value with
  | ok a => exact ⟨a, rfl, h.value s a hs hvalue⟩
  | error fault => exact (h.fault s fault hs hvalue).elim

end PageScript.Routine
