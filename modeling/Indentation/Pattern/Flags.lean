import Indentation.Pattern.Progress

/-!
# Flags in patterns

A group may turn flags on and off for its content. Without content it sets them for the whole
pattern.

## Main definitions

* `Pattern.readFlags` — the flags at the front of a group
-/

namespace Indentation.Pattern

/-- Whether a lexeme is a letter. -/
def Lexeme.isLetter : Lexeme → Bool
  | .plain c => Character.isLetter c
  | .escape _ => false

/-- The flag that a lexeme stands for. -/
def Lexeme.flag? : Lexeme → Option Flag
  | .plain c => Flag.ofLetter? c
  | .escape _ => none

/-- The flags from `lexeme` on that are turned on, and the character that ends them. -/
def readFlagsOn (on : List Flag) (flag : Flag) : Nat → Reader (List Flag × Char)
  | 0 => fail .missingFlagsEnd
  | fuel + 1 => do
    if flag = .locale then fail .localeFlag
    let on := on ++ [flag]
    if flag.isAlphabet && on.any fun other => other.isAlphabet && other != flag then
      fail .incompatibleFlags
    match ← next with
    | none => fail .missingFlagsEnd
    | some (.plain ')') => return (on, ')')
    | some (.plain '-') => return (on, '-')
    | some (.plain ':') => return (on, ':')
    | some lexeme =>
      match lexeme.flag? with
      | some flag => readFlagsOn on flag fuel
      | none =>
        fail (if lexeme.isLetter then .unknownFlag else .missingFlagsEnd) lexeme.text.length

/-- The flags from `flag` on that are turned off, up to the colon. -/
def readFlagsOff (off : List Flag) (flag : Flag) : Nat → Reader (List Flag)
  | 0 => fail .missingColon
  | fuel + 1 => do
    if flag.isAlphabet then fail .alphabetFlagOff
    let off := off ++ [flag]
    match ← next with
    | none => fail .missingColon
    | some (.plain ':') => return off
    | some lexeme =>
      match lexeme.flag? with
      | some flag => readFlagsOff off flag fuel
      | none => fail (if lexeme.isLetter then .unknownFlag else .missingColon) lexeme.text.length

/-- The flags after a minus sign. -/
def readFlagsAfterMinus : Reader (List Flag) := do
  match ← next with
  | none => fail .missingFlag
  | some lexeme =>
    match lexeme.flag? with
    | some flag => readFlagsOff [] flag ((← remaining) + 1)
    | none => fail (if lexeme.isLetter then .unknownFlag else .missingFlag) lexeme.text.length

/-- The flags that a group turns on and off; `none` if they are for the whole pattern, and then they
have been set. The first character has been read and is `flag`, or a minus sign without it. -/
def readFlags (flag? : Option Flag) : Reader (Option (List Flag × List Flag)) := do
  let (on, last) ←
    match flag? with
    | some flag => readFlagsOn [] flag ((← remaining) + 1)
    | none => pure ([], '-')
  if last == ')' then
    modify fun s => { s with flags := s.flags ++ on }
    return none
  if on.contains .template then fail .globalFlagOn 1
  let off ← if last == '-' then readFlagsAfterMinus else pure []
  if off.contains .template then fail .globalFlagOff 1
  if on.any off.contains then fail .flagOnAndOff 1
  return some (on, off)

end Indentation.Pattern
