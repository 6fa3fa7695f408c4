import LogTree.Trace.Rule

namespace LogTree

structure Filter where
  rules : List FilterRule
deriving DecidableEq

namespace Filter

def written (text : String) : List (List Char) :=
  (Text.pieces ',' text.toList).filter (· ≠ [])

/-- Reads a filter all of whose rules are valid. The first fault counts. -/
def parse (text : String) : Except FilterRule.Fault Filter := do
  let rules ← (written text).mapM FilterRule.parse
  return { rules }

def validRules? : List (List Char) → Option (List FilterRule)
  | [] => some []
  | text :: texts =>
      match FilterRule.parse text with
      | .ok rule => (validRules? texts).map (rule :: ·)
      | .error .malformed => validRules? texts
      | .error .dividesCharacter => none

/-- Reads a filter and passes over what does not have the form of a rule. If that leaves no rule,
the errors are shown. -/
def parseValid? (text : String) : Option Filter :=
  (validRules? (written text)).map fun rules =>
    if rules = [] then { rules := [{ least := some .error }] } else { rules }

/-- The rule for the events: of those that concern them the most specific one, and of rules about
the same the last one. -/
def rule? (filter : Filter) : Option FilterRule :=
  (filter.rules.filter (FilterRule.Concerns Event.target Event.fields)).foldl (fun best rule =>
    match best with
    | none => some rule
    | some found => if found.MoreSpecific rule then some found else some rule) none

/-- Whether events of a severity are shown. What no rule is about is not shown. -/
def shows (filter : Filter) (severity : Severity) : Bool :=
  match filter.rule?.bind FilterRule.least with
  | none => false
  | some least => least ≤ severity

/-- The filter that a program starts with: the one of its environment if that has the form of a
filter, the default one otherwise. An environment without rules shows nothing. There is no filter if
reading breaks down. -/
def initial? (environment : Option String) (fallback : String) : Option Filter :=
  match environment.map parse with
  | some (.ok filter) => some filter
  | some (.error .dividesCharacter) => none
  | some (.error .malformed) | none => parseValid? fallback

end Filter

/-- The subscriber of a process, which can be installed only once. -/
structure Subscription where
  filter : Option Filter := none
deriving DecidableEq

namespace Subscription

def install? (subscription : Subscription) (environment : Option String) (fallback : String) :
    Option (Subscription × Bool) :=
  (Filter.initial? environment fallback).map fun filter =>
    match subscription.filter with
    | some _ => (subscription, false)
    | none => ({ filter := some filter }, true)

def shows (subscription : Subscription) (level : Level) : Bool :=
  match subscription.filter with
  | none => false
  | some filter => filter.shows (Severity.ofLevel level)

end Subscription

end LogTree
