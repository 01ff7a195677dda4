import RequestDispatch.Journal

/-!
# Laws of runs and kinds of events

The journal of one run after another is the first journal followed by the second, and only a notice
changes the telemetry. `Run.Within` is the frame of a run that gives no notice: what it is made of
enters events of a kind only. Its constructors are the primitives and `bind`, so that the frame of a
function is a matter of its parts, and what a frame implies is an induction over these.
-/

namespace RequestDispatch

/-! ## Calls of application code -/

section Called

variable {α : Type} {mode : Mode}

/-- A value is what a call gives in either mode. -/
@[simp] theorem Completion.called_ok (a : α) : Completion.called mode (.ok a) = .ok a := by
  cases mode <;> rfl

/-- So is a raised error. -/
@[simp] theorem Completion.called_raised (e : DispatchError) :
    Completion.called mode (.error (.raised e) : Completion α) = .error (.failed e) := by
  cases mode <;> rfl

/-- How a panic stops the caller of code of a mode. -/
def Panic.stop (panic : Panic) (mode : Mode) (early : Bool) : Stop DispatchError :=
  if mode = .async ∧ early then .unwound panic else .failed (.internal (.panicked mode panic))

/-- A panic in code of a mode stops the dispatch in the way of the mode. -/
@[simp] theorem Completion.called_panicked (panic : Panic) (early : Bool) :
    Completion.called mode (.error (.panicked panic early) : Completion α) =
      .error (panic.stop mode early) := by
  cases mode <;> cases early <;> rfl

/-- Code that fails stops its caller. -/
theorem Completion.exists_called_error (failure : Failure) :
    ∃ stop, Completion.called mode (.error failure : Completion α) = .error stop := by
  cases failure with
  | raised e => exact ⟨_, called_raised e⟩
  | panicked panic early => exact ⟨_, called_panicked panic early⟩

end Called

namespace Run

variable {σ κ α β : Type}

/-! ## What a run gives -/

@[simp] theorem pure_apply (a : α) (s : Session σ κ) : (pure a : Run σ κ α) s = ⟨a, s, []⟩ := rfl

/-- One run after another, as a step. -/
theorem bind_apply (m : Run σ κ α) (f : α → Run σ κ β) (s : Session σ κ) :
    (m >>= f) s =
      ⟨(f (m s).result (m s).session).result, (f (m s).result (m s).session).session,
        (m s).journal ++ (f (m s).result (m s).session).journal⟩ := rfl

/-- A run of two parts gives what its second part gives. -/
@[simp] theorem result_bind (m : Run σ κ α) (f : α → Run σ κ β) (s : Session σ κ) :
    ((m >>= f) s).result = (f (m s).result (m s).session).result := rfl

@[simp] theorem session_bind (m : Run σ κ α) (f : α → Run σ κ β) (s : Session σ κ) :
    ((m >>= f) s).session = (f (m s).result (m s).session).session := rfl

/-- A run of two parts leaves the journals of both. -/
@[simp] theorem journal_bind (m : Run σ κ α) (f : α → Run σ κ β) (s : Session σ κ) :
    ((m >>= f) s).journal = (m s).journal ++ (f (m s).result (m s).session).journal := rfl

@[simp] theorem enter_apply (event : Event) (s : Session σ κ) :
    enter event s = ⟨(), s, [event]⟩ := rfl

@[simp] theorem look_apply (f : Session σ κ → α) (s : Session σ κ) : look f s = ⟨f s, s, []⟩ := rfl

@[simp] theorem journal_perform (event : Event) (code : Effect σ κ α) (s : Session σ κ) :
    (perform event code s).journal = [event] := rfl

@[simp] theorem journal_performAlone (event : Event) (code : Procedure σ κ α) (s : Session σ κ) :
    (performAlone event code s).journal = [event] := rfl

@[simp] theorem journal_notify (o : Observability σ κ) (notice : Notice) (s : Session σ κ) :
    (notify o notice s).journal = [.notice notice] := rfl

/-! ## Runs within a kind of events -/

/-- A run made of calls of application code and of entries in the journal, all events of a kind. -/
inductive Within (kind : Event → Bool) : {α : Type} → Run σ κ α → Prop where
  | pure {α : Type} (a : α) : Within kind (Pure.pure a)
  | bind {α β : Type} {m : Run σ κ α} {f : α → Run σ κ β} (first : Within kind m)
      (second : ∀ a, Within kind (f a)) : Within kind (m >>= f)
  | enter {event : Event} (h : kind event) : Within kind (Run.enter event)
  | look {α : Type} (g : Session σ κ → α) : Within kind (Run.look g)
  | perform {α : Type} {event : Event} (h : kind event) (code : Effect σ κ α) :
      Within kind (Run.perform event code)
  | performAlone {α : Type} {event : Event} (h : kind event) (code : Procedure σ κ α) :
      Within kind (Run.performAlone event code)

namespace Within

variable {p q : Event → Bool} {m : Run σ κ α}

/-- Events of a kind are of every wider kind. -/
theorem mono (h : Within p m) (hpq : ∀ e, p e → q e) : Within q m := by
  induction h with
  | pure a => exact .pure a
  | bind _ _ first second => exact .bind first second
  | enter h => exact .enter (hpq _ h)
  | look g => exact .look g
  | perform h code => exact .perform (hpq _ h) code
  | performAlone h code => exact .performAlone (hpq _ h) code

/-- Such a run leaves the telemetry alone. -/
theorem telemetry (h : Within p m) (s : Session σ κ) :
    (m s).session.telemetry = s.telemetry := by
  induction h generalizing s with
  | bind _ _ first second => rw [session_bind, second, first]
  | _ => rfl

/-- Every event of a run is of the kind of the run. -/
theorem journal (h : Within p m) (s : Session σ κ) : ∀ e ∈ (m s).journal, p e := by
  induction h generalizing s with
  | pure a => exact fun e he => absurd he List.not_mem_nil
  | bind _ _ first second =>
    intro e he
    rw [journal_bind, List.mem_append] at he
    exact he.elim (first s e) (second _ _ e)
  | look g => exact fun e he => absurd he List.not_mem_nil
  | enter h | perform h | performAlone h => exact fun e he => List.mem_singleton.mp he ▸ h

end Within

/-! ## Runs with journals of a form -/

/-- A run whose journals all are of a form. -/
def Enters (P : List Event → Prop) (m : Run σ κ α) : Prop := ∀ s, P (m s).journal

namespace Enters

variable {P Q : List Event → Prop} {m : Run σ κ α} {f : α → Run σ κ β}

/-- A run without events has the empty journal. -/
theorem pure {a : α} (h : P []) : Enters P (Pure.pure a : Run σ κ α) := fun _ => h

/-- The form of a first journal is at hand when the second one follows it. -/
theorem bind (hm : Enters Q m)
    (hf : ∀ first, Q first → ∀ a, Enters (fun second => P (first ++ second)) (f a)) :
    Enters P (m >>= f) := fun s => hf _ (hm s) _ _

/-- A run that begins with a call has the event of the call first. -/
theorem perform_bind {event : Event} {code : Effect σ κ α} {g : Completion α → Run σ κ β}
    (h : ∀ completion, Enters (fun rest => P (event :: rest)) (g completion)) :
    Enters P (Run.perform event code >>= g) := fun _ => h _ _

/-- A run that begins with an event has it first. -/
theorem enter_bind {event : Event} {g : Unit → Run σ κ β}
    (h : Enters (fun rest => P (event :: rest)) (g ())) : Enters P (Run.enter event >>= g) :=
  fun _ => h _

end Enters

end Run

/-! ## One event before another -/

/-- Wherever the second event happens, the first one has happened before. -/
def Precedes (first second : Event) (journal : List Event) : Prop :=
  ∀ before after, journal = before ++ second :: after → first ∈ before

namespace Precedes

variable {first second : Event} {journal journal' : List Event}

/-- Nothing precedes what does not happen. -/
theorem of_not_mem (h : second ∉ journal) : Precedes first second journal := by
  rintro before after rfl
  exact absurd (List.mem_append_right before List.mem_cons_self) h

/-- An order stays in a longer journal if the first event has happened, or precedes the second in
the rest too. -/
theorem append (h : Precedes first second journal)
    (h' : first ∈ journal ∨ Precedes first second journal') :
    Precedes first second (journal ++ journal') := by
  intro before after heq
  -- the second event lies in the one part or in the other
  rcases List.append_eq_append_iff.mp heq with ⟨middle, rfl, heq'⟩ | ⟨middle, heq', hafter⟩
  · rcases h' with h' | h'
    · exact List.mem_append_left _ h'
    · exact List.mem_append_right _ (h' middle after heq')
  · cases middle with
    | nil =>
      rw [List.append_nil] at heq'
      subst heq'
      rcases h' with h' | h'
      · exact h'
      · exact absurd (h' [] after hafter.symm) List.not_mem_nil
    | cons e middle =>
      obtain ⟨rfl, -⟩ := List.cons.inj hafter
      exact h before middle heq'

end Precedes

end RequestDispatch
