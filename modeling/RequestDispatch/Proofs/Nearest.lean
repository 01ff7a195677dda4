import Mathlib.Data.List.Forall2
import RequestDispatch.Dispatch.ErrorHandler

/-!
# The handler of an error class

A class has its ancestors above it, each a number of hops away. A registry answers the errors of a
class with the earliest of its handlers whose class is nearest above. `ErrorHandlers.lookup_nearest`
says so of every registry, and what registering further handlers changes: a new one takes over
exactly where its class is strictly nearer than that of the present answer.
-/

namespace RequestDispatch

/-! ## Hops from a class to its ancestors -/

namespace ErrorClass

/-- The line of ancestors of an ancestor is not longer. -/
theorem length_lineage_le {c a : ErrorClass} (h : a ∈ c.lineage) :
    a.lineage.length ≤ c.lineage.length := by
  induction c with
  | root mark name =>
    obtain rfl := List.mem_singleton.mp h
    exact Nat.le_refl _
  | derived mark name parent ih =>
    rcases List.mem_cons.mp h with rfl | h
    · exact Nat.le_refl _
    · exact Nat.le_succ_of_le (ih h)

/-- No class is above its own parent. -/
theorem not_mem_lineage_parent (mark : Nat) (name : String) (parent : ErrorClass) :
    .derived mark name parent ∉ parent.lineage := by
  intro h
  have hle : parent.lineage.length + 1 ≤ parent.lineage.length := length_lineage_le h
  omega

/-- The distance to a class is the number of hops after which it is met on the way up. -/
theorem distanceTo_eq_some {c a : ErrorClass} {hops : Nat} :
    c.distanceTo a = some hops ↔ c.lineage[hops]? = some a := by
  induction c generalizing hops with
  | root mark name =>
    cases hops with
    | zero => simp [distanceTo, lineage]
    | succ hops => simp [distanceTo, lineage]
  | derived mark name parent ih =>
    by_cases hself : .derived mark name parent = a
    · subst hself
      cases hops with
      | zero => simp [distanceTo, lineage]
      | succ hops =>
        -- the class itself is not met again further up
        have hparent : parent.lineage[hops]? ≠ some (.derived mark name parent) := fun h =>
          not_mem_lineage_parent mark name parent (List.mem_of_getElem? h)
        simpa [distanceTo, lineage] using hparent
    · cases hops with
      | zero => simp [distanceTo, lineage, hself]
      | succ hops => simp [distanceTo, lineage, hself, ih]

/-- An ancestor is one number of hops away. -/
theorem hops_unique {c a : ErrorClass} {m n : Nat} (hm : c.lineage[m]? = some a)
    (hn : c.lineage[n]? = some a) : m = n := by
  have hdistance := (distanceTo_eq_some.mpr hm).symm.trans (distanceTo_eq_some.mpr hn)
  exact Option.some.inj hdistance

end ErrorClass

/-! ## The first of the least -/

section FirstLeast

variable {α : Type}

/-- An entry is less than all entries before it and no greater than those after it. -/
def IsFirstLeast (entries : List (Nat × α)) (entry : Nat × α) : Prop :=
  ∃ before after, entries = before ++ entry :: after ∧
    (∀ other ∈ before, entry.1 < other.1) ∧ ∀ other ∈ after, entry.1 ≤ other.1

/-- The first least entry is a least one. -/
theorem IsFirstLeast.le {entries : List (Nat × α)} {entry : Nat × α}
    (h : IsFirstLeast entries entry) : ∀ other ∈ entries, entry.1 ≤ other.1 := by
  obtain ⟨before, after, rfl, hbefore, hafter⟩ := h
  intro other hother
  rcases List.mem_append.mp hother with hother | hother
  · exact Nat.le_of_lt (hbefore other hother)
  · rcases List.mem_cons.mp hother with rfl | hother
    · exact Nat.le_refl _
    · exact hafter other hother

/-- Among no entries there is no least one. -/
theorem firstLeast_eq_none {entries : List (Nat × α)} :
    firstLeast entries = none ↔ entries = [] := by
  cases entries with
  | nil => simp [firstLeast]
  | cons entry rest =>
    rw [firstLeast]
    split
    · simp
    · split <;> simp

/-- An entry found is the first with the least number. -/
theorem isFirstLeast_of_firstLeast {entries : List (Nat × α)} {entry : Nat × α}
    (h : firstLeast entries = some entry) : IsFirstLeast entries entry := by
  induction entries generalizing entry with
  | nil => cases h
  | cons first rest ih =>
    obtain ⟨k, b⟩ := first
    rcases hrest : firstLeast rest with _ | ⟨m, c⟩
    · obtain rfl : (k, b) = entry := by simpa [firstLeast, hrest] using h
      exact ⟨[], rest, rfl, nofun, by simp [firstLeast_eq_none.mp hrest]⟩
    · have found := ih hrest
      by_cases hless : m < k
      · -- the entry of the rest is less than the first one, which comes before it
        obtain rfl : (m, c) = entry := by simpa [firstLeast, hrest, hless] using h
        obtain ⟨before, after, rfl, hbefore, hafter⟩ := found
        refine ⟨(k, b) :: before, after, rfl, ?_, hafter⟩
        exact List.forall_mem_cons.mpr ⟨hless, hbefore⟩
      · obtain rfl : (k, b) = entry := by simpa [firstLeast, hrest, hless] using h
        refine ⟨[], rest, rfl, nofun, fun other hother => ?_⟩
        exact Nat.le_trans (Nat.le_of_not_lt hless) (found.le other hother)

/-- The first entry with the least number is the one found. -/
theorem firstLeast_of_isFirstLeast {entries : List (Nat × α)} {entry : Nat × α}
    (h : IsFirstLeast entries entry) : firstLeast entries = some entry := by
  obtain ⟨before, after, rfl, hbefore, hafter⟩ := h
  obtain ⟨n, a⟩ := entry
  induction before with
  | nil =>
    rw [List.nil_append, firstLeast]
    rcases hrest : firstLeast after with _ | ⟨m, b⟩
    · rfl
    · obtain ⟨before, after', rfl, -, -⟩ := isFirstLeast_of_firstLeast hrest
      have hle : n ≤ m := hafter (m, b) (by simp)
      simp only [if_neg (Nat.not_lt_of_le hle)]
  | cons first before ih =>
    obtain ⟨k, b⟩ := first
    obtain ⟨hfirst, hbefore⟩ := List.forall_mem_cons.mp hbefore
    have hless : n < k := hfirst
    rw [List.cons_append, firstLeast, ih hbefore]
    simp only [if_pos hless]

end FirstLeast

/-! ## Lookup -/

namespace ErrorHandlers

variable {σ κ : Type}

/-- Of the handlers of a registry whose class is that of an error or above it, this one is the
earliest of the nearest: those before it are more hops away, those after it at least as many. -/
inductive Nearest (h : ErrorHandlers σ κ) (c : ErrorClass) (handler : ErrorHandler σ κ)
    (hops : Nat) : Prop where
  | intro {before after : List (ErrorHandler σ κ)}
      (registered : h.handlers = before ++ handler :: after)
      (above : c.lineage[hops]? = some handler.errorClass)
      (earlier : ∀ other ∈ before, ∀ n, c.lineage[n]? = some other.errorClass → hops < n)
      (later : ∀ other ∈ after, ∀ n, c.lineage[n]? = some other.errorClass → hops ≤ n)

/-- A handler with its distance from a class, if it is of that class or of one above. -/
def ranked? (c : ErrorClass) (handler : ErrorHandler σ κ) : Option (Nat × ErrorHandler σ κ) :=
  (c.distanceTo handler.errorClass).map fun distance => (distance, handler)

/-- The handler that answers is the first of the nearest. -/
theorem lookup_eq (h : ErrorHandlers σ κ) (c : ErrorClass) :
    h.lookup c = (firstLeast (h.handlers.filterMap (ranked? c))).map (·.2) :=
  rfl

/-- A handler is ranked by the number of steps up to its class. -/
theorem ranked?_eq_some {c : ErrorClass} {handler other : ErrorHandler σ κ} {hops : Nat} :
    ranked? c handler = some (hops, other) ↔
      c.lineage[hops]? = some handler.errorClass ∧ handler = other := by
  rw [ranked?, Option.map_eq_some_iff, ← ErrorClass.distanceTo_eq_some]
  constructor
  · rintro ⟨distance, hdistance, heq⟩
    obtain ⟨rfl, rfl⟩ := Prod.mk.inj heq
    exact ⟨hdistance, rfl⟩
  · rintro ⟨hdistance, rfl⟩
    exact ⟨hops, hdistance, rfl⟩

/-- What holds of the entries of handlers is said of the handlers and their hops. -/
theorem forall_mem_ranked {c : ErrorClass} {handlers : List (ErrorHandler σ κ)} {P : Nat → Prop} :
    (∀ entry ∈ handlers.filterMap (ranked? c), P entry.1) ↔
      ∀ handler ∈ handlers, ∀ n, c.lineage[n]? = some handler.errorClass → P n := by
  constructor
  · intro h handler hhandler n hn
    exact h (n, handler) (List.mem_filterMap.mpr ⟨handler, hhandler, ranked?_eq_some.mpr ⟨hn, rfl⟩⟩)
  · rintro h ⟨n, handler⟩ hentry
    obtain ⟨handler', hhandler, heq⟩ := List.mem_filterMap.mp hentry
    exact h handler' hhandler n (ranked?_eq_some.mp heq).1

/-- The answer to a class is the earliest of the nearest handlers. -/
theorem lookup_eq_some {h : ErrorHandlers σ κ} {c : ErrorClass} {handler : ErrorHandler σ κ} :
    h.lookup c = some handler ↔ ∃ hops, h.Nearest c handler hops := by
  rw [lookup_eq, Option.map_eq_some_iff]
  constructor
  · rintro ⟨⟨hops, _⟩, hfound, rfl⟩
    obtain ⟨before, after, hentries, hbefore, hafter⟩ := isFirstLeast_of_firstLeast hfound
    obtain ⟨earlier, rest, hhandlers, rfl, hrest⟩ := List.filterMap_eq_append_iff.mp hentries
    obtain ⟨skipped, handler, later, rfl, hskipped, hentry, rfl⟩ :=
      List.filterMap_eq_cons_iff.mp hrest
    obtain ⟨habove, rfl⟩ := ranked?_eq_some.mp hentry
    have registered : h.handlers = (earlier ++ skipped) ++ handler :: later := by
      rw [hhandlers, List.append_assoc]
    refine ⟨hops, .intro registered habove ?_ ?_⟩
    · intro other hother n hn
      rcases List.mem_append.mp hother with hother | hother
      · exact forall_mem_ranked.mp hbefore other hother n hn
      · cases (hskipped other hother).symm.trans (ranked?_eq_some.mpr ⟨hn, rfl⟩)
    · exact forall_mem_ranked.mp hafter
  · rintro ⟨hops, ⟨hhandlers, habove, hearlier, hlater⟩⟩
    refine ⟨(hops, handler), firstLeast_of_isFirstLeast ?_, rfl⟩
    refine ⟨_, _, ?_, forall_mem_ranked.mpr hearlier, forall_mem_ranked.mpr hlater⟩
    rw [hhandlers, List.filterMap_append,
      List.filterMap_cons_some (ranked?_eq_some.mpr ⟨habove, rfl⟩)]

/-! ## Registering -/

section Registering

variable {h : ErrorHandlers σ κ} {c : ErrorClass}

/-- An error is answered if a handler of one of its ancestors is there. -/
theorem exists_lookup_iff :
    (∃ handler, h.lookup c = some handler) ↔
      ∃ handler ∈ h.handlers, handler.errorClass ∈ c.lineage := by
  constructor
  · rintro ⟨handler, hfound⟩
    obtain ⟨hops, ⟨hhandlers, habove, -, -⟩⟩ := lookup_eq_some.mp hfound
    exact ⟨handler, by simp [hhandlers], List.mem_of_getElem? habove⟩
  · rintro ⟨handler, hhandler, habove⟩
    obtain ⟨hops, habove⟩ := List.mem_iff_getElem?.mp habove
    rcases hfound : h.lookup c with _ | found
    · -- the handler has an entry, so the entries are not empty
      rw [lookup_eq, Option.map_eq_none_iff] at hfound
      have hentry : (hops, handler) ∈ h.handlers.filterMap (ranked? c) :=
        List.mem_filterMap.mpr ⟨handler, hhandler, ranked?_eq_some.mpr ⟨habove, rfl⟩⟩
      rw [firstLeast_eq_none.mp hfound] at hentry
      exact absurd hentry List.not_mem_nil
    · exact ⟨found, rfl⟩

/-- The class of the answer is no more hops away than that of any handler. -/
theorem Nearest.le {handler other : ErrorHandler σ κ} {hops n : Nat}
    (nearest : h.Nearest c handler hops) (hother : other ∈ h.handlers)
    (hn : c.lineage[n]? = some other.errorClass) : hops ≤ n := by
  obtain ⟨hhandlers, habove, hearlier, hlater⟩ := nearest
  rw [hhandlers] at hother
  rcases List.mem_append.mp hother with hother | hother
  · exact Nat.le_of_lt (hearlier other hother n hn)
  · rcases List.mem_cons.mp hother with rfl | hother
    · exact Nat.le_of_eq (ErrorClass.hops_unique habove hn)
    · exact hlater other hother n hn

/-- A handler is of a class or of one above it, and strictly nearer than the present answer of a
registry, if that has one. -/
def Overtakes (h : ErrorHandlers σ κ) (c : ErrorClass) (new : ErrorHandler σ κ) : Prop :=
  ∃ hops : Nat, c.lineage[hops]? = some new.errorClass ∧
    ∀ old, h.lookup c = some old → ∀ n, c.lineage[n]? = some old.errorClass → hops < n

/-- A new handler that is nearer than all others answers from now on. -/
theorem lookup_register_of_overtakes {new : ErrorHandler σ κ} (overtakes : h.Overtakes c new) :
    (h.register new).lookup c = some new := by
  obtain ⟨hops, habove, hless⟩ := overtakes
  refine lookup_eq_some.mpr ⟨hops, .intro rfl habove ?_ nofun⟩
  intro other hother n hn
  -- the present answer is between the new handler and the other one
  obtain ⟨old, hold⟩ := exists_lookup_iff.mpr ⟨other, hother, List.mem_of_getElem? hn⟩
  obtain ⟨m, nearest⟩ := lookup_eq_some.mp hold
  have hm : hops < m := hless old hold m (by obtain ⟨-, habove', -, -⟩ := nearest; exact habove')
  exact Nat.lt_of_lt_of_le hm (nearest.le hother hn)

/-- Any other new handler changes nothing for the class. -/
theorem lookup_register_of_not_overtakes {new : ErrorHandler σ κ} (h' : ¬ h.Overtakes c new) :
    (h.register new).lookup c = h.lookup c := by
  rcases hold : h.lookup c with _ | old
  · -- without an answer so far, the new handler is not above the class either
    rcases hnew : (h.register new).lookup c with _ | found
    · rfl
    · exfalso
      obtain ⟨handler, hhandler, habove⟩ := exists_lookup_iff.mp ⟨found, hnew⟩
      rcases List.mem_append.mp hhandler with hhandler | hhandler
      · obtain ⟨old, hsome⟩ := exists_lookup_iff.mpr ⟨handler, hhandler, habove⟩
        cases hold.symm.trans hsome
      · obtain rfl := List.mem_singleton.mp hhandler
        obtain ⟨hops, habove⟩ := List.mem_iff_getElem?.mp habove
        refine h' ⟨hops, habove, fun old hsome => ?_⟩
        cases hold.symm.trans hsome
  · obtain ⟨hops, @⟨before, after, hhandlers, habove, hearlier, hlater⟩⟩ := lookup_eq_some.mp hold
    have hregistered : (h.register new).handlers = before ++ old :: (after ++ [new]) := by
      rw [register, hhandlers, List.append_assoc, List.cons_append]
    refine lookup_eq_some.mpr ⟨hops, .intro hregistered habove hearlier ?_⟩
    -- the old answer stays the nearest, since the new handler would have to be nearer
    intro other hother n hn
    rcases List.mem_append.mp hother with hother | hother
    · exact hlater other hother n hn
    · obtain rfl := List.mem_singleton.mp hother
      refine Nat.le_of_not_lt fun hless => h' ⟨n, hn, fun old' hold' m hm => ?_⟩
      obtain rfl := Option.some.inj (hold.symm.trans hold')
      rwa [ErrorClass.hops_unique hm habove]

/-- Registering all handlers of another registry is registering them one after another. -/
theorem extend_eq_foldl (h other : ErrorHandlers σ κ) :
    h.extend other = other.handlers.foldl register h := by
  obtain ⟨handlers⟩ := other
  induction handlers generalizing h with
  | nil => simp [extend]
  | cons handler handlers ih =>
    rw [List.foldl_cons, ← ih]
    simp [extend, register]

end Registering

/-! ## Registries of the same classes -/

/-- Entries that agree in their numbers have the first least one at the same place. -/
theorem firstLeast_rel {α β : Type} {R : α → β → Prop} {entries : List (Nat × α)}
    {entries' : List (Nat × β)}
    (h : List.Forall₂ (fun p q => p.1 = q.1 ∧ R p.2 q.2) entries entries') :
    Option.Rel (fun p q => p.1 = q.1 ∧ R p.2 q.2) (firstLeast entries) (firstLeast entries') := by
  induction h with
  | nil => exact .none
  | @cons p q entries entries' hpq h ih =>
    obtain ⟨n, a⟩ := p
    obtain ⟨n', b⟩ := q
    obtain ⟨rfl, hab⟩ : n = n' ∧ R a b := hpq
    rw [firstLeast, firstLeast]
    generalize firstLeast entries = r, firstLeast entries' = r' at ih
    cases ih with
    | none => exact .some ⟨rfl, hab⟩
    | @some p q hpq =>
      -- the numbers are the same, so both sides compare alike
      obtain ⟨m, a'⟩ := p
      obtain ⟨m', b'⟩ := q
      obtain ⟨rfl, hab'⟩ : m = m' ∧ R a' b' := hpq
      by_cases hless : m < n
      · simp only [hless, if_true]
        exact .some ⟨rfl, hab'⟩
      · simp only [hless, if_false]
        exact .some ⟨rfl, hab⟩

/-- Of handlers of the same classes, those at the same place answer. -/
theorem lookup_rel {τ : Type} {R : ErrorHandler σ κ → ErrorHandler τ κ → Prop}
    (same : ∀ handler handler', R handler handler' → handler.errorClass = handler'.errorClass)
    {h : ErrorHandlers σ κ} {h' : ErrorHandlers τ κ}
    (related : List.Forall₂ R h.handlers h'.handlers) (c : ErrorClass) :
    Option.Rel R (h.lookup c) (h'.lookup c) := by
  have entries : List.Forall₂ (fun p q => p.1 = q.1 ∧ R p.2 q.2)
      (h.handlers.filterMap (ranked? c)) (h'.handlers.filterMap (ranked? c)) := by
    generalize h.handlers = handlers, h'.handlers = handlers' at related
    induction related with
    | nil => exact .nil
    | @cons handler handler' handlers handlers' hone _ ih =>
      rw [List.filterMap_cons, List.filterMap_cons, ranked?, ranked?, ← same _ _ hone]
      cases c.distanceTo handler.errorClass with
      | none => exact ih
      | some distance => exact .cons ⟨rfl, hone⟩ ih
  have hleast := firstLeast_rel entries
  rw [lookup_eq, lookup_eq]
  generalize firstLeast (h.handlers.filterMap (ranked? c)) = r,
    firstLeast (h'.handlers.filterMap (ranked? c)) = r' at hleast
  cases hleast with
  | none => exact .none
  | some hpq => exact .some hpq.2

/-! ## The answer to a class -/

/-- How a registry answers the errors of a class. -/
structure AnswersNearest (h : ErrorHandlers σ κ) (c : ErrorClass) : Prop where
  /-- There is an answer exactly if a handler is of the class or of an ancestor. -/
  answered : (∃ handler, h.lookup c = some handler) ↔
    ∃ handler ∈ h.handlers, handler.errorClass ∈ c.lineage
  /-- It is the earliest of the handlers whose class is nearest. -/
  nearest : ∀ handler, h.lookup c = some handler ↔ ∃ hops, h.Nearest c handler hops
  /-- A handler that is registered takes over if it is strictly nearer. -/
  overtaken : ∀ new, h.Overtakes c new → (h.register new).lookup c = some new
  /-- Else it changes nothing. -/
  kept : ∀ new, ¬ h.Overtakes c new → (h.register new).lookup c = h.lookup c
  /-- Another registry is registered handler by handler. -/
  extended : ∀ other, h.extend other = other.handlers.foldl register h

/-- Every registry answers every class with the earliest of its nearest handlers. -/
theorem lookup_nearest (h : ErrorHandlers σ κ) (c : ErrorClass) : h.AnswersNearest c where
  answered := exists_lookup_iff
  nearest := fun _ => lookup_eq_some
  overtaken := fun _ => lookup_register_of_overtakes
  kept := fun _ => lookup_register_of_not_overtakes
  extended := h.extend_eq_foldl

end ErrorHandlers

end RequestDispatch
