import RequestDispatch.Proofs.MediaTypes
import RequestDispatch.Proofs.Spelling

/-!
# Pulling a stream

A stream is pulled to its end before anything of it is sent. Its chunks give their bytes one after
another (`Pulls`), or one of them fails and ends the stream (`Breaks`). A whole stream is a response
with these chunks for a body; of a broken one nothing is left but the failure, so that the bytes it
gave before make no difference.
-/

namespace RequestDispatch

variable {σ κ ν : Type}

/-! ## Pulling chunks -/

/-- Chunks numbered from a position on give their bytes one after another, from one session to
another. -/
inductive Pulls : Nat → List (Effect σ κ Bytes) → Session σ κ → List Bytes → Session σ κ →
    Prop where
  | done (position : Nat) (s : Session σ κ) : Pulls position [] s [] s
  | next {position : Nat} {chunk : Effect σ κ Bytes} {chunks : List (Effect σ κ Bytes)}
      {s s' : Session σ κ} {bytes : Bytes} {pulled : List Bytes}
      (given : (Run.perform (.chunkPulled position) chunk s).result = .ok bytes)
      (rest : Pulls (position + 1) chunks (Run.perform (.chunkPulled position) chunk s).session
        pulled s') : Pulls position (chunk :: chunks) s (bytes :: pulled) s'

/-- After a number of chunks that give their bytes, the next one fails. -/
inductive Breaks : Nat → List (Effect σ κ Bytes) → Session σ κ → Nat → Failure → Session σ κ →
    Prop where
  | here {position : Nat} {chunk : Effect σ κ Bytes} (chunks : List (Effect σ κ Bytes))
      {s : Session σ κ} {failure : Failure}
      (failed : (Run.perform (.chunkPulled position) chunk s).result = .error failure) :
      Breaks position (chunk :: chunks) s 0 failure
        (Run.perform (.chunkPulled position) chunk s).session
  | later {position : Nat} {chunk : Effect σ κ Bytes} {chunks : List (Effect σ κ Bytes)}
      {s s' : Session σ κ} {bytes : Bytes} {given : Nat} {failure : Failure}
      (gives : (Run.perform (.chunkPulled position) chunk s).result = .ok bytes)
      (rest : Breaks (position + 1) chunks (Run.perform (.chunkPulled position) chunk s).session
        given failure s') : Breaks position (chunk :: chunks) s (given + 1) failure s'

/-- The journal of pulling a number of chunks. -/
def pullsOf (count : Nat) : List Event := (List.range count).map .chunkPulled

section Pulling

variable {position given : Nat} {chunks chunks' : List (Effect σ κ Bytes)} {s s' : Session σ κ}
  {pulled : List Bytes} {failure : Failure}

theorem pullFrom_cons_ok {chunk : Effect σ κ Bytes} {bytes : Bytes}
    (h : (Run.perform (.chunkPulled position) chunk s).result = .ok bytes) :
    pullFrom position (chunk :: chunks) s =
      let t := pullFrom (position + 1) chunks (Run.perform (.chunkPulled position) chunk s).session
      ⟨t.result.map (bytes :: ·), t.session, .chunkPulled position :: t.journal⟩ := by
  simp [pullFrom, Run.bind_apply, h]

theorem pullFrom_cons_error {chunk : Effect σ κ Bytes}
    (h : (Run.perform (.chunkPulled position) chunk s).result = .error failure) :
    pullFrom position (chunk :: chunks) s = ⟨.error failure,
      (Run.perform (.chunkPulled position) chunk s).session, [.chunkPulled position]⟩ := by
  simp [pullFrom, Run.bind_apply, h]

/-- Every stream gives all its bytes or breaks. -/
theorem pulls_or_breaks (position : Nat) (chunks : List (Effect σ κ Bytes)) (s : Session σ κ) :
    (∃ pulled s', Pulls position chunks s pulled s') ∨
      ∃ given failure s', Breaks position chunks s given failure s' := by
  induction chunks generalizing position s with
  | nil => exact .inl ⟨[], s, .done position s⟩
  | cons chunk chunks ih =>
    rcases h : (Run.perform (.chunkPulled position) chunk s).result with failure | bytes
    · exact .inr ⟨0, failure, _, .here chunks h⟩
    · rcases ih (position + 1) (Run.perform (.chunkPulled position) chunk s).session with
        ⟨pulled, s', pulls⟩ | ⟨given, failure, s', breaks⟩
      · exact .inl ⟨bytes :: pulled, s', .next h pulls⟩
      · exact .inr ⟨given + 1, failure, s', .later h breaks⟩

theorem Pulls.pullFrom (h : Pulls position chunks s pulled s') :
    pullFrom position chunks s =
      ⟨.ok pulled, s', (List.range' position chunks.length).map .chunkPulled⟩ := by
  induction h with
  | done => rfl
  | next given rest ih =>
    rw [pullFrom_cons_ok given, ih]
    simp [Except.map, List.range'_succ]

/-- A broken stream keeps nothing of the bytes it gave, and no chunk is pulled after the failing
one. -/
theorem Breaks.pullFrom (h : Breaks position chunks s given failure s') :
    pullFrom position chunks s =
      ⟨.error failure, s', (List.range' position (given + 1)).map .chunkPulled⟩ := by
  induction h with
  | here chunks failed => rw [pullFrom_cons_error failed]; rfl
  | later gives rest ih =>
    rw [pullFrom_cons_ok gives, ih]
    simp [Except.map, List.range'_succ]

theorem Except.LiftRel.left_error {ε α β : Type} {R : α → β → Prop} {e : ε} {r : Except ε β}
    (h : Except.LiftRel Eq R (.error e) r) : r = .error e := by
  obtain ⟨rfl⟩ | - := h
  rfl

theorem Except.LiftRel.left_ok {ε ε' α β : Type} {E : ε → ε' → Prop} {R : α → β → Prop} {a : α}
    {r : Except ε' β} (h : Except.LiftRel E R (.ok a) r) : ∃ b, r = .ok b ∧ R a b := by
  obtain - | ⟨h⟩ := h
  exact ⟨_, rfl, h⟩

/-- One step of each of two pieces of related code. -/
theorem Effect.Relates.step {α β : Type} {R : α → β → Prop} {e : Effect σ κ α} {e' : Effect σ κ β}
    (h : e.Relates R e') (event : Event) (s : Session σ κ) :
    Except.LiftRel Eq R (Run.perform event e s).result (Run.perform event e' s).result ∧
      (Run.perform event e s).session = (Run.perform event e' s).session :=
  Run.Relates.perform h s

/-- Code that differs in the values it gives at most. -/
abbrev Effect.LikeButValue {α : Type} (e e' : Effect σ κ α) : Prop := e.Relates (fun _ _ => True) e'

/-- Which chunk breaks a stream, and how, does not depend on the bytes of any chunk. -/
theorem Breaks.likewise (breaks : Breaks position chunks s given failure s')
    (h : List.Forall₂ Effect.LikeButValue chunks chunks') :
    Breaks position chunks' s given failure s' := by
  induction breaks generalizing chunks' with
  | @here position chunk chunks s failure failed =>
    obtain _ | ⟨hchunk, -⟩ := h
    obtain ⟨hresult, hsession⟩ := hchunk.step (.chunkPulled position) s
    rw [failed] at hresult
    rw [hsession]
    exact .here _ hresult.left_error
  | @later position chunk chunks s s' bytes given failure gives rest ih =>
    obtain _ | ⟨hchunk, hchunks⟩ := h
    obtain ⟨hresult, hsession⟩ := hchunk.step (.chunkPulled position) s
    rw [gives] at hresult
    obtain ⟨bytes', hbytes', -⟩ := hresult.left_ok
    exact .later hbytes' (hsession ▸ ih hchunks)

end Pulling

/-! ## Shaping a stream -/

/-- The error that a failure is taken for. -/
def Failure.contained (mode : Mode) : Failure → DispatchError
  | .raised e => e
  | .panicked panic _ => .internal (.panicked mode panic)

theorem Completion.contain_error {α : Type} (mode : Mode) (failure : Failure) :
    Completion.contain mode (.error failure : Completion α) = .error (failure.contained mode) := by
  cases failure with
  | raised e => rfl
  | panicked panic early => rfl

section Shaping

variable {chunks : List (Effect σ κ Bytes)} {s s' : Session σ κ}

theorem Pulls.shape {pulled : List Bytes} (h : Pulls 0 chunks s pulled s') (supported : List String)
    (view : RequestView) (status : Status) (mediaType : String) :
    shape supported view (.stream status mediaType chunks) s =
      ⟨typedResponse status mediaType (.chunks pulled), s', pullsOf chunks.length⟩ := by
  simp [RequestDispatch.shape, Run.bind_apply, h.pullFrom, Completion.contain, pullsOf,
    List.range_eq_range']

theorem Breaks.shape {given : Nat} {failure : Failure} (h : Breaks 0 chunks s given failure s')
    (supported : List String) (view : RequestView) (status : Status) (mediaType : String) :
    shape supported view (.stream status mediaType chunks) s =
      ⟨.error (failure.contained .async), s', pullsOf (given + 1)⟩ := by
  simp [RequestDispatch.shape, Run.bind_apply, h.pullFrom, Completion.contain_error, pullsOf,
    List.range_eq_range']

end Shaping

/-- A media type that is a header value gives a response of its own. -/
theorem typedResponse_of_headerValue {mediaType : String} (h : (headerValue? mediaType).isSome)
    (status : Status) (body : ResponseBody) :
    ∃ response, typedResponse status mediaType body = .ok response ∧ response.status = status ∧
      response.body = body := by
  obtain ⟨_, hvalue⟩ := Option.isSome_iff_exists.mp h
  obtain ⟨field, hfield⟩ := MediaType.isSendable_iff.mpr (headerValue?_eq_some.mp hvalue).2
  refine ⟨(Response.new status body).setHeader "content-type" field, ?_, rfl, rfl⟩
  simp only [typedResponse, hfield]

/-! ## Streams in general -/

/-- How a stream is shaped in a session. -/
structure Drains (supported : List String) (view : RequestView) (status : Status)
    (mediaType : String) (chunks : List (Effect σ κ Bytes)) (s : Session σ κ) : Prop where
  /-- It gives all its bytes, or it breaks. -/
  either : (∃ pulled s', Pulls 0 chunks s pulled s') ∨
    ∃ given failure s', Breaks 0 chunks s given failure s'
  /-- If it gives all and its type is a header value, it is a response of its status, whose body
  has the chunks as they were pulled. -/
  whole : ∀ pulled s', Pulls 0 chunks s pulled s' → (headerValue? mediaType).isSome →
    ∃ response, shape supported view (.stream status mediaType chunks) s =
        ⟨.ok response, s', pullsOf chunks.length⟩ ∧ response.status = status ∧
      response.body = .chunks pulled ∧ response.body.toBytes = pulled.flatten
  /-- If it breaks, the chunks up to the failing one have been pulled, and the failure is all that
  is left. -/
  broken : ∀ given failure s', Breaks 0 chunks s given failure s' →
    shape supported view (.stream status mediaType chunks) s =
      ⟨.error (failure.contained .async), s', pullsOf (given + 1)⟩
  /-- It would be so with other bytes in its chunks. -/
  likewise : ∀ given failure s' chunks', Breaks 0 chunks s given failure s' →
    List.Forall₂ Effect.LikeButValue chunks chunks' →
      shape supported view (.stream status mediaType chunks') s =
        shape supported view (.stream status mediaType chunks) s

/-- Every stream is shaped so. -/
theorem drains (supported : List String) (view : RequestView) (status : Status)
    (mediaType : String) (chunks : List (Effect σ κ Bytes)) (s : Session σ κ) :
    Drains supported view status mediaType chunks s where
  either := pulls_or_breaks 0 chunks s
  whole := by
    intro pulled s' pulls valid
    obtain ⟨response, typed, hstatus, hbody⟩ :=
      typedResponse_of_headerValue valid status (.chunks pulled)
    refine ⟨response, ?_, hstatus, hbody, ?_⟩
    · rw [pulls.shape, typed]
    · rw [hbody]
      rfl
  broken _ _ _ breaks := breaks.shape supported view status mediaType
  likewise := by
    intro given failure s' chunks' breaks h
    rw [breaks.shape, (breaks.likewise h).shape]

end RequestDispatch
