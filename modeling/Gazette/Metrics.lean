import Gazette.Layered

/-!
# Counters of cached lookups

Every observation counts towards the total of its domain, and a hit also towards the hits of
its domain.  The counters are shown in the text form that monitoring systems collect: for each
family a line with its type, then a line for each label.
-/

set_option autoImplicit false

namespace Gazette.Metrics

/-- Whether a character may stand in the name of a family, at its start or later. -/
def isNameChar (first : Bool) (c : Char) : Bool :=
  c.isAlpha || c = '_' || c = ':' || (!first && c.isDigit)

/-- A text as the name of a family: what may not stand in it becomes an underscore. -/
def familyName (text : String) : String :=
  match text.toList with
  | [] => ""
  | c :: rest =>
    let mend (first : Bool) (c : Char) : Char := if isNameChar first c then c else '_'
    String.ofList (mend true c :: rest.map (mend false))

/-- Two backslashes. -/
def escapedBackslash : List Char := ['\\', '\\']

/-- A text as the value of a label.  Quotes and newlines are escaped.  A backslash is escaped
too, except that one before a quote or before another backslash counts as an escape that is
already there; `held` tells that the last character was a backslash not yet accounted for. -/
def labelChars (held : Bool) : List Char → List Char
  | [] => if held then escapedBackslash else []
  | '\n' :: rest => '\\' :: 'n' :: labelChars held rest
  | '"' :: rest => '\\' :: '"' :: labelChars false rest
  | '\\' :: rest => (if held then escapedBackslash else []) ++ labelChars (!held) rest
  | c :: rest => (if held then escapedBackslash else []) ++ c :: labelChars false rest

/-- A text as the value of a label. -/
def labelValue (text : String) : String :=
  String.ofList (labelChars false text.toList)

/-- The labels of some domains with their counters, in the order of the labels.  Domains whose
labels read the same share one line, which shows the counter of the one that came last. -/
def counters (domains : List String) : List (String × Nat) :=
  let labels := (domains.map labelValue).mergeSort fun a b => !(b < a)
  labels.eraseReps.filterMap fun label =>
    (domains.reverse.find? fun domain => labelValue domain = label).map fun domain =>
      (label, domains.count domain)

/-- The lines of a family of counters, one counter for each label.  A family without counters
is not shown. -/
def family (name : String) (domains : List String) : List String :=
  match counters domains with
  | [] => []
  | counts =>
    ("# TYPE " ++ name ++ " counter") :: counts.map fun (label, count) =>
      name ++ "\x7bkey=\"" ++ label ++ "\"\x7d " ++ toString count

/-- The name of the totals within a namespace. -/
def totalName (space : String) : String :=
  familyName (space ++ "_cache_total")

/-- The name of the hits within a namespace. -/
def hitName (space : String) : String :=
  familyName (space ++ "_cache_hit")

/-- The counters of some observations, line by line. -/
def lines (space : String) (observations : List Observation) : List String :=
  family (hitName space) ((observations.filter Observation.hit).map Observation.domain) ++
    family (totalName space) (observations.map Observation.domain)

/-- The counters of some observations as a text. -/
def exposition (space : String) (observations : List Observation) : String :=
  String.join ((lines space observations).map (· ++ "\n"))

end Gazette.Metrics
