import SlotFilling.Rule

/-!
# Searching a sentence

Every token that the first rule reads is an anchor. From an anchor on, each
further rule takes the first token that it reads after the token of the rule
before it; nothing is taken back. Each anchor from which all rules find a token
yields one alignment, a copy of the rules with values and distances. The distance
of the first rule is its position, and that of a later rule counts the tokens
skipped since the rule before it.
-/
namespace SlotFilling

/-- What to do with a token that fits but holds no value of the right kind. -/
inductive MismatchPolicy where
  | abort
  | skipToken
  deriving DecidableEq, Repr

/-- Whether an alignment may start inside an earlier one. -/
inductive OverlapPolicy where
  | keep
  | suppress
  deriving DecidableEq, Repr

structure SearchOptions where
  onMismatch : MismatchPolicy := .abort
  overlap : OverlapPolicy := .keep
  /-- The greatest number of alignments. -/
  limit : Option Nat := none
  deriving DecidableEq, Repr

/-- A token that a pattern reads after skipping some others. -/
structure Fit where
  skipped : Nat
  value : SlotValue
  rest : List Token

/-- What one rule captures: the tokens skipped before its token, and the value. -/
structure Capture where
  skipped : Nat
  value : SlotValue
  deriving DecidableEq

namespace Pattern

/-- Read a token under a mismatch policy. -/
def attempt (pattern : Pattern) (policy : MismatchPolicy) (token : Token) :
    Except Fault (Option SlotValue) :=
  match policy, pattern.read token with
  | .skipToken, .error _ => .ok none
  | _, answer => answer

/-- The first token that a pattern reads. -/
def firstFit (pattern : Pattern) (policy : MismatchPolicy) :
    List Token → Except Fault (Option Fit)
  | [] => .ok none
  | token :: rest => do
    match ← pattern.attempt policy token with
    | some value => return some ⟨0, value, rest⟩
    | none =>
      let found ← pattern.firstFit policy rest
      return found.map fun fit => { fit with skipped := fit.skipped + 1 }

end Pattern

/-- Give each pattern in turn the first token that it reads. -/
def fillAll (policy : MismatchPolicy) :
    List Pattern → List Token → Except Fault (Option (List Capture))
  | [], _ => .ok (some [])
  | pattern :: others, tokens => do
    match ← pattern.firstFit policy tokens with
    | none => return none
    | some fit =>
      let filled ← fillAll policy others fit.rest
      return filled.map fun captures => ⟨fit.skipped, fit.value⟩ :: captures

/-- The rules of an alignment. -/
def populate (patterns : List Pattern) (captures : List Capture) : RuleSet :=
  List.zipWith (fun pattern capture => ⟨pattern, some capture.value, some capture.skipped⟩)
    patterns captures

/-- The number of tokens up to the last one of an alignment. The first capture
counts the tokens from the start of the sentence. -/
def tokensPassed : List Capture → Nat
  | [] => 0
  | capture :: later => capture.skipped + 1 + tokensPassed later

/-- The alignment from one anchor, if the first pattern reads its token, the
anchor is not taken by an earlier alignment, and all other patterns find tokens. -/
def alignmentAt (options : SearchOptions) (first : Pattern) (others : List Pattern)
    (anchor free : Nat) (token : Token) (rest : List Token) :
    Except Fault (Option (List Capture)) := do
  match ← first.attempt options.onMismatch token with
  | none => return none
  | some value =>
    -- The first pattern has read its token before it is asked whether the anchor is
    -- free, so a mismatch inside an earlier alignment aborts the search as well.
    if anchor < free then return none
    else
      let later ← fillAll options.onMismatch others rest
      return later.map (⟨anchor, value⟩ :: ·)

/-- The first position at which the alignment after one with these captures may start. -/
def freeAfter (overlap : OverlapPolicy) (free : Nat) (captures : List Capture) : Nat :=
  match overlap with
  | .keep => free
  | .suppress => tokensPassed captures

/-- Search the tokens from position `anchor` on. No alignment may start before
position `free`, and at most `limit` are still wanted. -/
def searchFrom (options : SearchOptions) (first : Pattern) (others : List Pattern) :
    (anchor free : Nat) → (limit : Option Nat) → List Token → Except Fault (List RuleSet)
  | _, _, _, [] => .ok []
  | anchor, free, limit, token :: rest =>
    if limit = some 0 then .ok []
    else do
      match ← alignmentAt options first others anchor free token rest with
      | none => searchFrom options first others (anchor + 1) free limit rest
      | some captures =>
        let found ← searchFrom options first others (anchor + 1)
          (freeAfter options.overlap free captures) (limit.map (· - 1)) rest
        return populate (first :: others) captures :: found

/-- Every alignment of the rules over the tokens, in the order of their anchors. -/
def search (options : SearchOptions) (tokens : List Token) (rules : RuleSet) :
    Except Fault (List RuleSet) :=
  match rules.patterns with
  | [] => .error .emptyCollection
  | first :: others => searchFrom options first others 0 0 options.limit tokens

end SlotFilling
