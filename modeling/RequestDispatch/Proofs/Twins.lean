import RequestDispatch.Proofs.Journal
import RequestDispatch.Proofs.Recast

/-!
# Runs of code in other modes

A run of watched code does what the run of the code does, and tells whether a piece of code panicked
in it: `Run.Watches`. Two runs are twins, by a run of watched code, if they give the same as long as
that one tells of no panic: `Run.Twins`. What is the same is said by a relation between the results;
the sessions are the same up to the modes of the queued background actions. Twins are composed step
by step. The one place where they may part is a panic, so the rule for a call of code asks what
follows a value and what follows an error, and after a panic only that the watching goes on.
-/

namespace RequestDispatch

variable {σ κ ν α α' β β' γ γ' : Type}

/-! ## Sessions -/

namespace Session

/-- A session with a watched world, marked or not. -/
def watched (s : Session σ κ) (mark : Bool) : Session (Watched σ) κ :=
  ⟨⟨s.world, mark⟩, s.telemetry, s.queue.map (Task.recast .watch)⟩

/-- Sessions that are the same up to the modes of queued background actions. -/
structure Same (s s' : Session σ κ) : Prop where
  world : s.world = s'.world
  telemetry : s.telemetry = s'.telemetry
  queue : s.queue.map (Task.recast .forget) = s'.queue.map (Task.recast .forget)

/-- A state is the same as itself. -/
theorem Same.refl (s : Session σ κ) : s.Same s := ⟨rfl, rfl, rfl⟩

/-- As many actions are queued. -/
theorem Same.waiting {s s' : Session σ κ} (h : s.Same s') : s.queue.length = s'.queue.length := by
  have hlength := congrArg List.length h.queue
  rwa [List.length_map, List.length_map] at hlength

end Session

/-- Steps with related results that are otherwise the same. -/
structure Step.Same (R : α → α → Prop) (t t' : Step σ κ α) : Prop where
  result : R t.result t'.result
  session : t.session.Same t'.session
  journal : t.journal = t'.journal

namespace Run

/-! ## Watching -/

/-- Whether a run of watched code marks a world that was not marked. -/
def panics (m : Run (Watched σ) κ α) (s : Session σ κ) : Bool :=
  (m (s.watched false)).session.world.panicked

/-- A run of watched code that does what a run does, with a result that is recast by a function. A
marked world stays marked. -/
def Watches (w : α → β) (m : Run (Watched σ) κ β) (n : Run σ κ α) : Prop :=
  ∀ s mark, m (s.watched mark) =
    ⟨w (n s).result, (n s).session.watched (mark || m.panics s), (n s).journal⟩

namespace Watches

variable {w : α → β} {w' : α' → β'} {m : Run (Watched σ) κ β} {n : Run σ κ α}
  {g : β → Run (Watched σ) κ β'} {f : α → Run σ κ α'}

/-- A run watches another one if it only adds to the mark whether there was a panic. -/
theorem of_eq (h : ∀ s, ∃ panicked, ∀ mark, m (s.watched mark) =
    ⟨w (n s).result, (n s).session.watched (mark || panicked), (n s).journal⟩) :
    Watches w m n := by
  intro s mark
  obtain ⟨panicked, h⟩ := h s
  have hpanics : m.panics s = panicked := by
    rw [panics, h]
    rfl
  rw [hpanics, h]

/-- A value is watched as itself. -/
theorem pure {b : β} {a : α} (h : b = w a) :
    Watches w (Pure.pure b : Run (Watched σ) κ β) (Pure.pure a) :=
  of_eq fun _ => ⟨false, fun mark => by simp [h]⟩

/-- Branches of one condition are watched one by one. -/
theorem ite {p : Prop} [Decidable p] {m₁ m₂ : Run (Watched σ) κ β} {n₁ n₂ : Run σ κ α}
    (h₁ : Watches w m₁ n₁) (h₂ : Watches w m₂ n₂) :
    Watches w (if p then m₁ else m₂) (if p then n₁ else n₂) := by
  split
  · exact h₁
  · exact h₂

/-- The world is marked by the first run or by the second one. -/
theorem bind_apply (first : Watches w m n) (second : ∀ a, Watches w' (g (w a)) (f a))
    (s : Session σ κ) (mark : Bool) :
    (m >>= g) (s.watched mark) =
      let t := (n >>= f) s
      ⟨w' t.result, t.session.watched
        (mark || (m.panics s || (g (w (n s).result)).panics (n s).session)), t.journal⟩ := by
  simp only [Run.bind_apply, first s mark, second _ _ _, Bool.or_assoc]

/-- Parts that are watched are watched together. -/
theorem bind (first : Watches w m n) (second : ∀ a, Watches w' (g (w a)) (f a)) :
    Watches w' (m >>= g) (n >>= f) :=
  of_eq fun s => ⟨_, fun mark => bind_apply first second s mark⟩

/-- A panic of a run is one of its parts'. -/
theorem panics_bind (first : Watches w m n) (second : ∀ a, Watches w' (g (w a)) (f a))
    (s : Session σ κ) :
    (m >>= g).panics s = (m.panics s || (g (w (n s).result)).panics (n s).session) := by
  rw [panics, bind_apply first second]
  rfl

/-- A panic that marks the world. -/
theorem marked (h : Watches w m n) :
    Watches w (fun s : Session (Watched σ) κ =>
      m { s with world := { s.world with panicked := true } }) n :=
  .of_eq fun s => ⟨true, fun mark => by
    rw [Bool.or_true]
    exact (h s true).trans (by rw [Bool.true_or])⟩

/-- A change of the world and what follows it, both by what is found before. -/
theorem act (change : κ → σ → σ) {m : κ → σ → Run (Watched σ) κ β} {n : κ → σ → Run σ κ α}
    (h : ∀ telemetry world, Watches w (m telemetry world) (n telemetry world)) :
    Watches w
      (fun s => m s.telemetry s.world.world
        { s with world := { s.world with world := change s.telemetry s.world.world } })
      (fun s => n s.telemetry s.world { s with world := change s.telemetry s.world }) :=
  .of_eq fun s => ⟨_, fun mark =>
    h s.telemetry s.world { s with world := change s.telemetry s.world } mark⟩

/-- A call is watched as the call of the same code with the mark. -/
theorem perform (event : Event) (code : Effect σ κ α) (w : α → β) :
    Watches (Except.map w) (Run.perform event (code.recast .watch w)) (Run.perform event code) :=
  of_eq fun s => ⟨(Run.perform event code s).result.isPanic, fun mark => by
    simp only [Run.perform, Effect.recast, Session.watched, List.length_map, List.map_append]
    rfl⟩

/-- A call panics if its code does. -/
theorem panics_perform (event : Event) (code : Effect σ κ α) (w : α → β) (s : Session σ κ) :
    (Run.perform event (code.recast .watch w)).panics s =
      (Run.perform event code s).result.isPanic := by
  simp only [panics, Run.perform, Effect.recast, Session.watched, List.length_map]
  rfl

theorem performAlone (event : Event) (code : Procedure σ κ α) :
    Watches id (Run.performAlone event (code.recast .watch)) (Run.performAlone event code) :=
  of_eq fun s => ⟨(Run.performAlone event code s).result.isPanic, fun _ => rfl⟩

theorem panics_performAlone (event : Event) (code : Procedure σ κ α) (s : Session σ κ) :
    (Run.performAlone event (code.recast .watch)).panics s =
      (Run.performAlone event code s).result.isPanic := rfl

end Watches

/-! ## Twins -/

/-- Runs that give the same, up to a relation between their results, unless watched code panics. -/
structure Twins (w : α → β) (R : α → α → Prop) (m : Run (Watched σ) κ β) (n n' : Run σ κ α) :
    Prop where
  watches : Watches w m n
  same : ∀ s s', m.panics s = false → s.Same s' → Step.Same R (n s) (n' s')

namespace Twins

variable {w : α → β} {R : α → α → Prop} {m : Run (Watched σ) κ β} {n n' : Run σ κ α}
  {w' : α' → β'} {R' : α' → α' → Prop} {g : β → Run (Watched σ) κ β'} {f f' : α → Run σ κ α'}

/-- Equal values are twins. -/
theorem pure {b : β} {a a' : α} (hw : b = w a) (h : R a a') :
    Twins w R (Pure.pure b : Run (Watched σ) κ β) (Pure.pure a) (Pure.pure a') where
  watches := .pure hw
  same _ _ _ hs := ⟨h, hs, rfl⟩

/-- One run after another, where the watching goes on after every result. -/
theorem bind_of (first : Twins w R m n n') (watches : ∀ a, Watches w' (g (w a)) (f a))
    (second : ∀ a a', R a a' → Twins w' R' (g (w a)) (f a) (f' a')) :
    Twins w' R' (m >>= g) (n >>= f) (n' >>= f') where
  watches := first.watches.bind watches
  same s s' calm hs := by
    rw [first.watches.panics_bind watches, Bool.or_eq_false_iff] at calm
    obtain ⟨hresult, hsession, hjournal⟩ := first.same s s' calm.1 hs
    obtain ⟨hresult', hsession', hjournal'⟩ := (second _ _ hresult).same _ _ calm.2 hsession
    refine ⟨hresult', hsession', ?_⟩
    rw [journal_bind, journal_bind, hjournal, hjournal']

/-- One run after another. -/
theorem bind (first : Twins w R m n n') (refl : ∀ a, R a a)
    (second : ∀ a a', R a a' → Twins w' R' (g (w a)) (f a) (f' a')) :
    Twins w' R' (m >>= g) (n >>= f) (n' >>= f') :=
  first.bind_of (fun a => (second a a (refl a)).watches) second

/-- One run after another, with a first result that holds no code. -/
theorem bind_eq {m : Run (Watched σ) κ α} {g : α → Run (Watched σ) κ β'}
    (first : Twins id Eq m n n') (second : ∀ a, Twins w' R' (g a) (f a) (f' a)) :
    Twins w' R' (m >>= g) (n >>= f) (n' >>= f') :=
  first.bind (fun _ => rfl) fun a _ h => h ▸ second a

/-- Events are twins. -/
theorem enter (event : Event) :
    Twins id Eq (Run.enter event : Run (Watched σ) κ Unit) (Run.enter event) (Run.enter event) where
  watches := .of_eq fun _ => ⟨false, fun mark => by simp⟩
  same _ _ _ hs := ⟨rfl, hs, rfl⟩

/-- Looking at the world. -/
theorem look (f : σ → α) :
    Twins id Eq (Run.look fun s : Session (Watched σ) κ => f s.world.world)
      (Run.look fun s => f s.world) (Run.look fun s => f s.world) where
  watches := .of_eq fun _ => ⟨false, fun mark => by simp [Session.watched]⟩
  same _ _ _ hs := ⟨congrArg f hs.world, hs, rfl⟩

/-- Notices are twins. -/
theorem notify (o : Observability σ κ) (notice : Notice) :
    Twins id Eq (Run.notify (o.recast .watch) notice) (Run.notify o notice)
      (Run.notify o notice) where
  watches := .of_eq fun _ => ⟨false, fun _ => rfl⟩
  same s s' _ hs := by
    simp only [Run.notify, ← hs.world, ← hs.telemetry]
    exact ⟨rfl, ⟨rfl, rfl, hs.queue⟩, rfl⟩

/-- Code that is the same up to the modes of what it gives ends so, unless it panics. -/
theorem perform {δ : Type} {code code' : Effect σ κ α} {e : α → δ} (event : Event) (w : α → β)
    (h : code.recast .forget e = code'.recast .forget e) :
    Twins (Except.map w)
      (fun c c' => Completion.isPanic c = false ∧ Except.map e c = Except.map e c')
      (Run.perform event (code.recast .watch w)) (Run.perform event code)
      (Run.perform event code') where
  watches := .perform event code w
  same s s' calm hs := by
    rw [Watches.panics_perform] at calm
    have hcode := congrFun (congrFun h ⟨s.telemetry, s.queue.length⟩) s.world
    obtain ⟨hcompletion, hleft⟩ := Prod.ext_iff.mp hcode
    obtain ⟨hworld, hqueued⟩ := Prod.ext_iff.mp hleft
    simp only [Run.perform, ← hs.world, ← hs.telemetry, ← hs.waiting]
    refine ⟨⟨calm, hcompletion⟩, ⟨hworld, rfl, ?_⟩, rfl⟩
    rw [List.map_append, List.map_append, hs.queue]
    exact congrArg _ hqueued

/-- A call of code and what follows it: a value, an error or a panic. -/
theorem perform_bind {δ : Type} {event : Event} {code code' : Effect σ κ α} {e : α → δ}
    {w : α → β} {g : Completion β → Run (Watched σ) κ β'} {f f' : Completion α → Run σ κ α'}
    (h : code.recast .forget e = code'.recast .forget e)
    (value : ∀ a a', e a = e a' → Twins w' R' (g (.ok (w a))) (f (.ok a)) (f' (.ok a')))
    (raised : ∀ error, Twins w' R' (g (.error (.raised error))) (f (.error (.raised error)))
      (f' (.error (.raised error))))
    (panicked : ∀ panic early, Watches w' (g (.error (.panicked panic early)))
      (f (.error (.panicked panic early)))) :
    Twins w' R' (Run.perform event (code.recast .watch w) >>= g) (Run.perform event code >>= f)
      (Run.perform event code' >>= f') := by
  refine (perform event w h).bind_of (fun completion => ?_) fun completion completion' hc => ?_
  · obtain (error | ⟨panic, early⟩) | a := completion
    · exact (raised error).watches
    · exact panicked panic early
    · exact (value a a rfl).watches
  · obtain ⟨calm, heq⟩ := hc
    obtain (error | ⟨panic, early⟩) | a := completion
    · cases completion' with
      | error failure =>
        obtain rfl := Except.error.inj heq
        exact raised error
      | ok a' => exact nomatch heq
    · exact nomatch calm
    · cases completion' with
      | error failure => exact nomatch heq
      | ok a' => exact value a a' (Except.ok.inj heq)

/-- The same for code without a queue. -/
theorem performAlone (event : Event) (code : Procedure σ κ α) :
    Twins id (fun c c' => Completion.isPanic c = false ∧ c = c')
      (Run.performAlone event (code.recast .watch)) (Run.performAlone event code)
      (Run.performAlone event code) where
  watches := .performAlone event code
  same s s' calm hs := by
    rw [Watches.panics_performAlone] at calm
    simp only [Run.performAlone, ← hs.world, ← hs.telemetry] at calm ⊢
    exact ⟨⟨calm, rfl⟩, ⟨rfl, rfl, hs.queue⟩, rfl⟩

/-- A call of code in two modes is followed by twins if no panic is followed by anything else. -/
theorem performAlone_bind {event : Event} {code : Procedure σ κ α}
    {g : Completion α → Run (Watched σ) κ β'} {f f' : Completion α → Run σ κ α'}
    (value : ∀ a, Twins w' R' (g (.ok a)) (f (.ok a)) (f' (.ok a)))
    (raised : ∀ error, Twins w' R' (g (.error (.raised error))) (f (.error (.raised error)))
      (f' (.error (.raised error))))
    (panicked : ∀ panic early, Watches w' (g (.error (.panicked panic early)))
      (f (.error (.panicked panic early)))) :
    Twins w' R' (Run.performAlone event (code.recast .watch) >>= g)
      (Run.performAlone event code >>= f) (Run.performAlone event code >>= f') := by
  refine (performAlone event code).bind_of (fun completion => ?_) fun completion _ hc => ?_
  · obtain (error | ⟨panic, early⟩) | a := completion
    · exact (raised error).watches
    · exact panicked panic early
    · exact (value a).watches
  · obtain ⟨calm, rfl⟩ := hc
    obtain (error | ⟨panic, early⟩) | a := completion
    · exact raised error
    · exact nomatch calm
    · exact value a

/-- A panic that marks the world, and what follows it: nothing has to be the same then. -/
theorem marked (h : Watches w m n) :
    Twins w R (fun s : Session (Watched σ) κ =>
      m { s with world := { s.world with panicked := true } }) n n' where
  watches := h.marked
  same s _ calm _ := by
    have hmarked : (m (s.watched true)).session.world.panicked = true := by
      rw [h s true, Session.watched, Bool.true_or]
    exact nomatch calm.symm.trans hmarked

/-- A change of the world and what follows it, both by what is found before. -/
theorem act (change : κ → σ → σ) {m : κ → σ → Run (Watched σ) κ β} {n n' : κ → σ → Run σ κ α}
    (h : ∀ telemetry world, Twins w R (m telemetry world) (n telemetry world)
      (n' telemetry world)) :
    Twins w R
      (fun s => m s.telemetry s.world.world
        { s with world := { s.world with world := change s.telemetry s.world.world } })
      (fun s => n s.telemetry s.world { s with world := change s.telemetry s.world })
      (fun s => n' s.telemetry s.world { s with world := change s.telemetry s.world }) where
  watches := .act change fun telemetry world => (h telemetry world).watches
  same s s' calm hs := by
    rw [← hs.telemetry, ← hs.world]
    exact (h s.telemetry s.world).same _ _ calm ⟨rfl, rfl, hs.queue⟩

/-- Runs with queues of their own. -/
theorem withQueue {queue queue' : List (Task σ κ)}
    (hqueue : queue.map (Task.recast .forget) = queue'.map (Task.recast .forget))
    (h : Twins w R m n n') :
    Twins (Prod.map w (List.map (Task.recast .watch)))
      (fun t t' => R t.1 t'.1 ∧
        t.2.map (Task.recast .forget) = t'.2.map (Task.recast .forget))
      (Run.withQueue (queue.map (Task.recast .watch)) m) (Run.withQueue queue n)
      (Run.withQueue queue' n') where
  watches := .of_eq fun s => ⟨m.panics { s with queue }, fun mark => by
    have hwatches := h.watches { s with queue } mark
    simp only [Session.watched] at hwatches
    simp only [Run.withQueue, Session.watched, hwatches, Prod.map_apply]⟩
  same s s' calm hs := by
    have hcalm : m.panics { s with queue } = false := calm
    have hsame := h.same { s with queue } { s' with queue := queue' } hcalm
      ⟨hs.world, hs.telemetry, hqueue⟩
    obtain ⟨hresult, ⟨hworld, htelemetry, hleft⟩, hjournal⟩ := hsame
    exact ⟨⟨hresult, hleft⟩, ⟨hworld, htelemetry, hs.queue⟩, hjournal⟩

end Twins

end Run

end RequestDispatch
