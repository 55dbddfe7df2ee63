import VibeSync.Errors

/-! The transport side of the services: the codes of errors, what a client sees of an
error, and the interceptors around a handler. -/

namespace VibeSync

/-- `connect.Code`. -/
inductive Code where
  | canceled | unknown | invalidArgument | deadlineExceeded | notFound | alreadyExists | permissionDenied
  | resourceExhausted | failedPrecondition | aborted | outOfRange | unimplemented | internal | unavailable
  | dataLoss | unauthenticated
  deriving DecidableEq, Repr

def Code.number : Code → Nat
  | .canceled => 1
  | .unknown => 2
  | .invalidArgument => 3
  | .deadlineExceeded => 4
  | .notFound => 5
  | .alreadyExists => 6
  | .permissionDenied => 7
  | .resourceExhausted => 8
  | .failedPrecondition => 9
  | .aborted => 10
  | .outOfRange => 11
  | .unimplemented => 12
  | .internal => 13
  | .unavailable => 14
  | .dataLoss => 15
  | .unauthenticated => 16

def Kind.code : Kind → Code
  | .cancelled => .canceled
  | .unknown => .unknown
  | .invalidArgument => .invalidArgument
  | .deadlineExceeded => .deadlineExceeded
  | .notFound => .notFound
  | .alreadyExists => .alreadyExists
  | .permissionDenied => .permissionDenied
  | .resourceExhausted => .resourceExhausted
  | .failedPrecondition => .failedPrecondition
  | .aborted => .aborted
  | .outOfRange => .outOfRange
  | .unimplemented => .unimplemented
  | .internal => .internal
  | .unavailable => .unavailable
  | .unauthenticated => .unauthenticated
  | .other => .internal

def codeToKind : Code → Kind
  | .canceled => .cancelled
  | .unknown => .unknown
  | .invalidArgument => .invalidArgument
  | .deadlineExceeded => .deadlineExceeded
  | .notFound => .notFound
  | .alreadyExists => .alreadyExists
  | .permissionDenied => .permissionDenied
  | .resourceExhausted => .resourceExhausted
  | .failedPrecondition => .failedPrecondition
  | .aborted => .aborted
  | .outOfRange => .outOfRange
  | .unimplemented => .unimplemented
  | .internal => .internal
  | .unavailable => .unavailable
  | .unauthenticated => .unauthenticated
  | .dataLoss => .internal

/-- The fields of an `*errors.Error`. -/
structure TypedError where
  kind : Kind
  domain : String
  reason : String
  message : String
  info : List (String × String)
  cause : Option Err

/-- `errors.As`: the first typed error of the chain. -/
def Err.asError : Err → Option TypedError
  | .vibe kind domain reason message info cause => some ⟨kind, domain, reason, message, info, cause⟩
  | .wrapped _ cause => cause.asError
  | _ => none

def wrap (err : Err) : TypedError :=
  match err.asError with
  | some typed => typed
  | none => ⟨.internal, "vibesync", "INTERNAL", err.text, [], some err⟩

structure ConnectError where
  code : Code
  message : String
  deriving DecidableEq, Repr

def toConnect (err : Err) : ConnectError :=
  ⟨(wrap err).kind.code, (wrap err).domain ++ "/" ++ (wrap err).reason ++ ": " ++ (wrap err).message⟩

def fromConnect (err : ConnectError) : TypedError := ⟨codeToKind err.code, "vibesync", "REMOTE", err.message, [], none⟩

/-! Interceptors. -/

/-- How a call ends: with its results, or in a panic with a value. -/
inductive Outcome (π α : Type) where
  | returned (results : α)
  | panicked (value : π)

def Outcome.map {π α β : Type} (f : α → β) : Outcome π α → Outcome π β
  | .returned results => .returned (f results)
  | .panicked value => .panicked value

/-- A deferred `recover` ends the panic. The results of the function have no names, so that the
deferred call cannot set them and they keep their zero values. -/
def recoverToInternal {π α : Type} (zero : α) : Outcome π α → Outcome π α
  | .returned results => .returned results
  | .panicked _ => .returned zero

section
variable {π σ ρ ε : Type}

abbrev UnaryFunc (π σ ρ ε : Type) : Type := σ → Outcome π (Option ρ × Option ε)

abbrev StreamingHandlerFunc (π σ ε : Type) : Type := σ → Outcome π (Option ε)

namespace RecoveryInterceptor

def wrapUnary (next : UnaryFunc π σ ρ ε) : UnaryFunc π σ ρ ε := fun req => recoverToInternal (none, none) (next req)

def wrapStreamingHandler (next : StreamingHandlerFunc π σ ε) : StreamingHandlerFunc π σ ε :=
  fun stream => recoverToInternal none (next stream)

end RecoveryInterceptor

namespace ErrorTranslateInterceptor

def wrapUnary (next : UnaryFunc π σ ρ Err) : UnaryFunc π σ ρ ConnectError :=
  fun req => (next req).map fun (resp, err) => (resp, err.map toConnect)

def wrapStreamingHandler (next : StreamingHandlerFunc π σ Err) : StreamingHandlerFunc π σ ConnectError :=
  fun stream => (next stream).map fun err => err.map toConnect

end ErrorTranslateInterceptor

/-- The first interceptor of the options is the outermost. -/
def serveUnary (handler : UnaryFunc π σ ρ Err) : UnaryFunc π σ ρ ConnectError :=
  RecoveryInterceptor.wrapUnary (ErrorTranslateInterceptor.wrapUnary handler)

def serveStream (handler : StreamingHandlerFunc π σ Err) : StreamingHandlerFunc π σ ConnectError :=
  RecoveryInterceptor.wrapStreamingHandler (ErrorTranslateInterceptor.wrapStreamingHandler handler)

end

end VibeSync
