import ServiceSyntax.Scan.Pending

/-!
# All tokens of a source

Reading a source to its end, either up to the first scan error or beyond every error.
-/

namespace ServiceSyntax

/-- A token with the position it was read at. -/
structure Located where
  token : Token
  line : Nat
  column : Nat
deriving Repr, DecidableEq

namespace Scanner

open Scan

/-- The token just read with its position. -/
def locate (s : Scanner) (token : Token) : Located := ⟨token, s.tokenLine, s.tokenColumn⟩

/-- The tokens up to and including the end-of-file token. -/
def tokens (s : Scanner) : Except ScanError (List Located) × Scanner :=
  match _h : s.next with
  | (.error e, s') => (.error e, s')
  | (.ok token, s') =>
    if _ht : token = ⟨.endOfFile, ""⟩ then (.ok [s'.locate token], s')
    else
      match tokens s' with
      | (.ok others, last) => (.ok (s'.locate token :: others), last)
      | failed => failed
termination_by s.pending
decreasing_by exact pending_next_lt _h (by simpa using _ht)

/-- What a reading beyond scan errors comes across. -/
inductive Event where
  | token (located : Located)
  | problem (error : ScanError)
  | skipped (count : Nat)
deriving Repr, DecidableEq

/-- The whole source: after a scan error the rest of its line is skipped. -/
def events (s : Scanner) : List Event :=
  match _h : s.next with
  | (.error e, s') =>
    match _hs : s'.skipLine with
    | (.ok count, s'') => .problem e :: .skipped count :: events s''
    | (.error e', s'') => .problem e :: .problem e' :: events s''
  | (.ok token, s') =>
    if _ht : token = ⟨.endOfFile, ""⟩ then [.token (s'.locate token)]
    else .token (s'.locate token) :: events s'
termination_by s.pending
decreasing_by
  all_goals first
    | exact pending_next_lt _h (by simpa using _ht)
    | have hnext := pending_next_lt _h (by simp)
      have hskip := pending_skipLine_le s'
      simp only [_hs] at hskip
      omega

end Scanner

/-- The tokens of a text, the end-of-file token last. -/
def tokenize (text : String) (source : String := "<string>") : Except ScanError (List Token) :=
  (Scanner.ofText text source).tokens.1.map fun located => located.map Located.token

end ServiceSyntax
