import Indentation.Pattern.CharSet
import Indentation.Pattern.Choice
import Indentation.Pattern.Flags
import Indentation.Pattern.Repetition
import Indentation.Text.Integer

/-!
# Reading patterns

A pattern is a choice between sequences of items, and groups hold choices again. Recursion is
bounded by a count that starts above the number of steps any pattern of the same length can take.

## Main definitions

* `Pattern.readChoice` — alternatives
* `Pattern.readSequence` — items one after another
* `Pattern.readGroup` — a group, after what follows its opening parenthesis
* `Pattern.read` — a whole pattern with its flags
-/

namespace Indentation.Pattern

/-- What stands after the opening parenthesis of a group. -/
inductive GroupHead where
  /-- A group whose content is read, with its name and flags. -/
  | group (captures : Bool) (name : Option Text) (on off : List Flag)
  | atomic
  | look (back negated : Bool)
  | conditional (index : Nat)
  /-- A reference or nothing: the group is complete. -/
  | complete (node : Option Node)
  /-- Flags for the whole pattern. -/
  | globalFlags

/-- The rest of a comment, which opened at `start`. -/
def skipComment (start : Nat) : Nat → Reader Unit
  | 0 => return ()
  | fuel + 1 => do
    if (← peek).isNone then fail .unterminatedComment ((← get).position - start)
    if (← next) = some (.plain ')') then return ()
    skipComment start fuel

/-- The group that a conditional asks about. -/
def readCondition : Reader Nat := do
  let name ← nextName ')' "group name"
  if isIdentifier name then
    match (← get).names.lookup name with
    | some index =>
      checkLookBehind index
      return index
    | none => fail (.unknownGroupName name) (name.length + 1)
  else
    match Text.toInt? name with
    | some (.ofNat index) =>
      if index = 0 then fail .badGroupNumber (name.length + 1)
      if 2147483647 ≤ index then fail (.invalidGroupReference index) (name.length + 1)
      let place := (← get).position - name.length - 1
      modify fun s =>
        if s.mentions.any (·.1 == index) then s
        else { s with mentions := s.mentions ++ [(index, place)] }
      checkLookBehind index
      return index
    | _ => fail (.badGroupName name) (name.length + 1)

/-- A named group or a reference to one, after the letter P. -/
def readNamed : Reader GroupHead := do
  if ← accept '<' then
    let name ← nextName '>' "group name"
    checkGroupName name
    return .group true (some name) [] []
  if ← accept '=' then
    let name ← nextName ')' "group name"
    checkGroupName name
    match (← get).names.lookup name with
    | none => fail (.unknownGroupName name) (name.length + 1)
    | some index =>
      match ← closedWidth? index with
      | none => fail .openGroupReference (name.length + 1)
      | some width =>
        checkLookBehind index
        return .complete (some (.backreference index width))
  match ← next with
  | none => fail .unexpectedEnd
  | some lexeme => fail (.unknownExtension ('P' :: lexeme.text)) (lexeme.text.length + 2)

/-- What follows an opening parenthesis at `start`. -/
def readGroupHead (start : Nat) : Reader GroupHead := do
  if !(← accept '?') then
    return .group true none [] []
  match ← next with
  | none => fail .unexpectedEnd
  | some (.plain 'P') => readNamed
  | some (.plain ':') => return .group false none [] []
  | some (.plain '#') =>
    skipComment start ((← remaining) + 1)
    return .complete none
  | some (.plain '=') => return .look false false
  | some (.plain '!') => return .look false true
  | some (.plain '<') =>
    match ← next with
    | none => fail .unexpectedEnd
    | some (.plain '=') => return .look true false
    | some (.plain '!') => return .look true true
    | some lexeme => fail (.unknownExtension ('<' :: lexeme.text)) (lexeme.text.length + 2)
  | some (.plain '(') => return .conditional (← readCondition)
  | some (.plain '>') => return .atomic
  | some lexeme =>
    if lexeme.flag?.isSome || lexeme = .plain '-' then
      match ← readFlags lexeme.flag? with
      | none => return .globalFlags
      | some (on, off) => return .group false none on off
    else
      fail (.unknownExtension lexeme.text) (lexeme.text.length + 1)

/-- Moves past the closing parenthesis of the group that opened at `start`. -/
def closeParenthesis (start : Nat) : Reader Unit := do
  if !(← accept ')') then fail .unterminatedGroup ((← get).position - start)

/-- White space that a verbose pattern may hold between its items. -/
def isPatternSpace (c : Char) : Bool :=
  c == ' ' || (9 ≤ c.toNat && c.toNat ≤ 13)

/-- The rest of a line comment in a verbose pattern. -/
def skipLine : Nat → Reader Unit
  | 0 => return ()
  | fuel + 1 => do
    match ← next with
    | none | some (.plain '\n') => return ()
    | some _ => skipLine fuel

mutual

/-- Alternatives up to a closing parenthesis or the end. The outermost ones follow the flags of the
whole pattern; `before` are the alternatives that have been read. -/
def readChoice (outermost verbose : Bool) (before : List (List Node)) : Nat → Reader Node
  | 0 => return .ofChoice before
  | fuel + 1 => do
    let items ← readSequence verbose (outermost && before.isEmpty) [] fuel
    let alternatives := before ++ [items]
    if ← accept '|' then
      let flags := (← get).flags
      let verbose := if outermost then flags.contains .verbose else verbose
      readChoice outermost verbose alternatives fuel
    else
      return .ofChoice alternatives

/-- Items up to a bar, a closing parenthesis or the end. The items that have been read come last
first; `atStart` says that flags for the whole pattern may still be set. -/
def readSequence (verbose atStart : Bool) (items : List Node) : Nat → Reader (List Node)
  | 0 => return items.reverse
  | fuel + 1 => do
    match ← peek with
    | none | some (.plain '|') | some (.plain ')') => return items.reverse
    | some lexeme =>
      let start := (← get).position
      let _ ← next
      match lexeme with
      | .escape c => readSequence verbose atStart ((← readEscape c) :: items) fuel
      | .plain c =>
        if verbose && isPatternSpace c then
          readSequence verbose atStart items fuel
        else if verbose && c == '#' then
          skipLine ((← remaining) + 1)
          readSequence verbose atStart items fuel
        else
          match c with
          | '[' => readSequence verbose atStart ((← readSet) :: items) fuel
          | '?' => readSequence verbose atStart (← repeatLast items start (0, some 1)) fuel
          | '*' => readSequence verbose atStart (← repeatLast items start (0, none)) fuel
          | '+' => readSequence verbose atStart (← repeatLast items start (1, none)) fuel
          | '\x7b' =>
            match ← readBraces with
            | none => readSequence verbose atStart (.code c.toNat false :: items) fuel
            | some bounds => readSequence verbose atStart (← repeatLast items start bounds) fuel
          | '.' => readSequence verbose atStart (.anyChar :: items) fuel
          | '^' => readSequence verbose atStart (.anchor .lineStart :: items) fuel
          | '$' => readSequence verbose atStart (.anchor .lineEnd :: items) fuel
          | '(' =>
            match ← readGroupHead start with
            | .globalFlags =>
              if !(atStart && items.isEmpty) then
                fail .flagsNotAtStart ((← get).position - start)
              readSequence ((← get).flags.contains .verbose) atStart items fuel
            | head =>
              let node? ← readGroup verbose start head fuel
              readSequence verbose atStart (node?.toList ++ items) fuel
          | _ => readSequence verbose atStart (.code c.toNat false :: items) fuel

/-- The content of a group that opened at `start`, up to its closing parenthesis. -/
def readGroup (verbose : Bool) (start : Nat) (head : GroupHead) : Nat → Reader (Option Node)
  | 0 => return none
  | fuel + 1 => do
    match head with
    | .globalFlags => return none
    | .complete node? => return node?
    | .group captures name on off =>
      let index ← if captures then some <$> openGroup name else pure none
      let verbose := (verbose || on.contains .verbose) && !off.contains .verbose
      let body ← readChoice false verbose [] fuel
      closeParenthesis start
      if let some index := index then closeGroup index body
      return some (.group index on off body)
    | .atomic =>
      let body ← readChoice false verbose [] fuel
      closeParenthesis start
      return some (.atomic body)
    | .look back negated =>
      let outer := (← get).lookBehind
      if back && outer.isNone then
        let count ← groupCount
        modify fun s => { s with lookBehind := some count }
      let body ← readChoice false verbose [] fuel
      if back then modify fun s => { s with lookBehind := outer }
      closeParenthesis start
      return some (if back then .behind negated body else .ahead negated body)
    | .conditional index =>
      let yes ← readSequence verbose false [] fuel
      let no ←
        if ← accept '|' then
          let no ← readSequence verbose false [] fuel
          if (← peek) = some (.plain '|') then fail .moreThanTwoBranches
          pure no
        else
          pure []
      closeParenthesis start
      return some (.conditional index (.ofList yes) (.ofList no))

end

/-- A whole pattern, with the flags set for all of it. Flags that are set apart from each other may
choose different alphabets, and then the reader breaks down. -/
def readWhole (fuel : Nat) : Reader (Node × List Flag) := do
  checkNext
  let node ← readChoice true false [] fuel
  let flags := (← get).flags
  if flags.contains .ascii && flags.contains .unicode then
    throw (.breakdown .flagsIncompatible)
  if (← peek).isSome then fail .unbalancedParenthesis
  let count ← groupCount
  match (← get).mentions.find? fun (index, _) => count ≤ index with
  | some (index, place) => throw (.cause (.invalidGroupReference index, place))
  | none => return (node, flags)

/-- What is wrong with a part of a pattern that has been read: a look-behind at no fixed number of
characters or at too many, or a repetition in a template. The first fault from the left counts. -/
def Node.fault? (inTemplate : Bool) : Node → Option Fault
  | behind _ body =>
    if maxLookBehind < body.width.least then some .lookBehindTooFar
    else if !body.width.isFixed then some .lookBehindNotFixed
    else body.fault? inTemplate
  | repetition greed _ _ body =>
    if inTemplate then some (.repetitionInTemplate greed.operator) else body.fault? inTemplate
  | sequence first second | choice first second | conditional _ first second =>
    first.fault? inTemplate <|> second.fault? inTemplate
  | group _ _ _ body | atomic body | ahead _ body => body.fault? inTemplate
  | empty | code .. | anyChar | set .. | anchor _ | backreference .. => none

/-- Reads the pattern `source`. -/
def read (characterNames : CharacterNames) (source : Text) :
    Except (Failed Error) (Node × List Flag) :=
  let start : Progress :=
    { characterNames, rest := source, position := 0, flags := [], names := [], widths := [],
      lookBehind := none, mentions := [] }
  match (readWhole (3 * source.length + 3)).run' start with
  | .error failed => .error (failed.map fun (fault, position) => ⟨source, fault, some position⟩)
  | .ok (node, flags) =>
    match node.fault? (flags.contains .template) with
    | some fault => .error (.cause ⟨source, fault, none⟩)
    | none => .ok (node, flags)

end Indentation.Pattern
