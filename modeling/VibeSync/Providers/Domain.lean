import VibeSync.Decimal
import VibeSync.Errors

/-! The durations a media provider reports, and the one-pass scanner that reads them. -/

namespace VibeSync.Providers

def unitMillis (r : Char) (inTime : Bool) : Option Int64 :=
  if r = 'D' then if inTime then none else some (24 * 3600000)
  else if r = 'H' then if !inTime then none else some 3600000
  else if r = 'M' then if !inTime then none else some 60000
  else if r = 'S' then if !inTime then none else some 1000
  else none

/-- The variables of the loop. -/
structure Scan where
  total : Int64 := 0
  num : Int64 := 0
  digits : Bool := false
  inTime : Bool := false
  sawUnit : Bool := false
  deriving DecidableEq, Repr

section
-- The verb `%q` for a string and for a rune.
variable (quote : String → String) (quoteRune : Char → String)

def invalid (s problem : String) : Err := .plain ("domain: invalid ISO 8601 duration " ++ quote s ++ ": " ++ problem)

def Scan.step (s : String) (scan : Scan) (r : Char) : Except Err Scan :=
  if r = 'T' then
    if scan.inTime then .error (invalid quote s "duplicate T") else .ok { scan with inTime := true }
  else if isDigit r then
    .ok { scan with num := scan.num * 10 + Int64.ofNat (Decimal.digit r), digits := true }
  else
    match unitMillis r scan.inTime with
    | none => .error (invalid quote s ("unsupported unit " ++ quoteRune r))
    | some ms =>
      if !scan.digits then .error (invalid quote s ("missing number before " ++ quoteRune r))
      else .ok { scan with total := scan.total + scan.num * ms, num := 0, digits := false, sawUnit := true }

/-- What follows the loop. -/
def Scan.finish (s : String) (scan : Scan) : Except Err Int64 :=
  if scan.digits then .error (invalid quote s "trailing number without unit")
  else if !scan.sawUnit then .error (invalid quote s "no components")
  else .ok scan.total

def parseISODuration (s : String) : Except Err Int64 :=
  match s.toList with
  | 'P' :: rest =>
    if rest = [] then .error (invalid quote s "missing P prefix")
    else rest.foldlM (Scan.step quote quoteRune s) {} >>= Scan.finish quote s
  | _ => .error (invalid quote s "missing P prefix")

end

end VibeSync.Providers
