import VibeSync.Rpc

/-! What a client sees of a handler that fails: the code and the text of an error, and
what is left of a panic. -/

namespace VibeSync.Proofs.RpcErrors

/-! Codes. -/

theorem codeToKind_code {kind : Kind} (specified : kind ≠ .other) : codeToKind kind.code = kind := by
  cases kind <;> first | rfl | exact absurd rfl specified

/-- A client finds the kind of the server's error again, but for the unspecified kind. -/
theorem fromConnect_toConnect {err : Err} (specified : (wrap err).kind ≠ .other) :
    (fromConnect (toConnect err)).kind = (wrap err).kind := codeToKind_code specified

/-! Messages. -/

/-- The text that travels: the message of a typed error, or all of a foreign one. -/
def exposed (err : Err) : String :=
  match err.asError with
  | some typed => typed.message
  | none => err.text

theorem wrap_message (err : Err) : (wrap err).message = exposed err := by
  rw [wrap, exposed]
  cases err.asError <;> rfl

theorem toConnect_eq_iff {first second : Err} (kind : (wrap first).kind = (wrap second).kind)
    (domain : (wrap first).domain = (wrap second).domain) (reason : (wrap first).reason = (wrap second).reason) :
    toConnect first = toConnect second ↔ exposed first = exposed second := by
  rw [toConnect, toConnect, kind, domain, reason, wrap_message, wrap_message, ConnectError.mk.injEq]
  refine ⟨fun same => ?_, fun same => ⟨rfl, congrArg _ same⟩⟩
  exact (String.append_right_inj _).mp same.2

/-- Of two internal errors with one reason the client can tell which it got, unless their messages agree. -/
theorem internal_alike_iff {first second : Err} (left : (wrap first).kind = .internal) (right : (wrap second).kind = .internal)
    (domain : (wrap first).domain = (wrap second).domain) (reason : (wrap first).reason = (wrap second).reason) :
    toConnect first = toConnect second ↔ exposed first = exposed second :=
  toConnect_eq_iff (left.trans right.symm) domain reason

theorem causes_alike :
    toConnect ((Err.internal "SAVE_FAILED" "save").withCause (some (.plain "disk full"))) =
      toConnect (Err.internal "SAVE_FAILED" "save") :=
  (internal_alike_iff rfl rfl rfl rfl).mpr rfl

/-- The text of a failed statement reaches the client, and tells it from another
internal error of the same domain and reason. -/
theorem statement_text_travels :
    (wrap (.uniqueViolation "users_email_key")).kind = .internal ∧ (wrap (.plain "connection refused")).kind = .internal ∧
      (wrap (.uniqueViolation "users_email_key")).domain = (wrap (.plain "connection refused")).domain ∧
      (wrap (.uniqueViolation "users_email_key")).reason = (wrap (.plain "connection refused")).reason ∧
      (toConnect (.uniqueViolation "users_email_key")).message =
        "vibesync/INTERNAL: ERROR: duplicate key value violates unique constraint \"users_email_key\" (SQLSTATE 23505)" ∧
      (toConnect (.plain "connection refused")).message = "vibesync/INTERNAL: connection refused" ∧
      toConnect (.uniqueViolation "users_email_key") ≠ toConnect (.plain "connection refused") := by
  refine ⟨rfl, rfl, rfl, rfl, by decide, by decide, fun same => ?_⟩
  exact absurd (congrArg ConnectError.message same) (by decide)

/-! Panics. -/

section Panics
variable {π σ ρ : Type}

/-- A response is returned, an error is translated with the code of its kind, and a panic is an internal error. -/
structure Reported (ended : Outcome π (Option ρ × Option Err)) (answer : Outcome π (Option ρ × Option ConnectError)) : Prop where
  response : ∀ resp, ended = .returned (resp, none) → answer = .returned (resp, none)
  problem : ∀ resp err, ended = .returned (resp, some err) →
    answer = .returned (resp, some (toConnect err)) ∧ (toConnect err).code = (wrap err).kind.code
  panic : ∀ value, ended = .panicked value →
    ∃ resp problem, answer = .returned (resp, some problem) ∧ problem.code = .internal

structure StreamReported (ended : Outcome π (Option Err)) (answer : Outcome π (Option ConnectError)) : Prop where
  finished : ended = .returned none → answer = .returned none
  problem : ∀ err, ended = .returned (some err) →
    answer = .returned (some (toConnect err)) ∧ (toConnect err).code = (wrap err).kind.code
  panic : ∀ value, ended = .panicked value → ∃ problem, answer = .returned (some problem) ∧ problem.code = .internal

theorem serveUnary_reported_iff (handler : UnaryFunc π σ ρ Err) (req : σ) :
    Reported (handler req) (serveUnary handler req) ↔ ∀ value, handler req ≠ .panicked value := by
  rw [serveUnary, RecoveryInterceptor.wrapUnary, ErrorTranslateInterceptor.wrapUnary]
  cases handler req with
  | returned results =>
    refine ⟨fun _ value same => ?_, fun _ => ⟨?_, ?_, ?_⟩⟩
    · cases same
    · rintro resp ⟨⟩
      rfl
    · rintro resp err ⟨⟩
      exact ⟨rfl, rfl⟩
    · rintro value ⟨⟩
  | panicked value =>
    refine ⟨fun reported => ?_, fun calm => absurd rfl (calm value)⟩
    obtain ⟨resp, problem, answered, _⟩ := reported.panic value rfl
    cases answered

theorem serveStream_reported_iff (handler : StreamingHandlerFunc π σ Err) (stream : σ) :
    StreamReported (handler stream) (serveStream handler stream) ↔ ∀ value, handler stream ≠ .panicked value := by
  rw [serveStream, RecoveryInterceptor.wrapStreamingHandler, ErrorTranslateInterceptor.wrapStreamingHandler]
  cases handler stream with
  | returned results =>
    refine ⟨fun _ value same => ?_, fun _ => ⟨?_, ?_, ?_⟩⟩
    · cases same
    · rintro ⟨⟩
      rfl
    · rintro err ⟨⟩
      exact ⟨rfl, rfl⟩
    · rintro value ⟨⟩
  | panicked value =>
    refine ⟨fun reported => ?_, fun calm => absurd rfl (calm value)⟩
    obtain ⟨problem, answered, _⟩ := reported.panic value rfl
    cases answered

/-- The chain reports the outcome of every handler but one that panics. -/
theorem outcome_reported_iff (unary : UnaryFunc π σ ρ Err) (streaming : StreamingHandlerFunc π σ Err) (req stream : σ) :
    (Reported (unary req) (serveUnary unary req) ↔ ∀ value, unary req ≠ .panicked value) ∧
      (StreamReported (streaming stream) (serveStream streaming stream) ↔ ∀ value, streaming stream ≠ .panicked value) :=
  ⟨serveUnary_reported_iff unary req, serveStream_reported_iff streaming stream⟩

/-- A panic ends as success, with no response and no error. -/
theorem panic_reported_as_success :
    serveUnary (fun _ => .panicked "index out of range" : UnaryFunc String Unit Unit Err) () = .returned (none, none) ∧
      serveStream (fun _ => .panicked "index out of range" : StreamingHandlerFunc String Unit Err) () = .returned none :=
  ⟨rfl, rfl⟩

end Panics

end VibeSync.Proofs.RpcErrors
