import Indentation.Registry

/-!
# Built-in languages

Plain text, JavaScript, TypeScript, CSS, Python and HTML. HTML embeds JavaScript and CSS.

## Main definitions

* `Builtin.languages` — the built-in languages
* `Registry.builtin` — the registry that holds them
-/

namespace Indentation

namespace Builtin

/-- A pattern of a built-in rule. -/
def pattern (source : String) : Option Pattern :=
  (Pattern.compile (fun _ => none) source.toList).toOption

/-- Round brackets. -/
def round : BracketPair := ⟨["(".toList], [")".toList]⟩

/-- Square brackets. -/
def square : BracketPair := ⟨["[".toList], ["]".toList]⟩

/-- Curly brackets. -/
def curly : BracketPair := ⟨["\x7b".toList], ["\x7d".toList]⟩

/-- The rules of languages with blocks in curly brackets. -/
def blockRules : IndentRules where
  increase := pattern "^((?!//).)*(\\\x7b[^\x7d\"'`]*|\\([^)\"'`]*|\\[[^\\]\"'`]*)$"
  decrease := pattern "^((?!.*?/\\*).*\\*/)?\\s*[\x7d\\]].*$"
  indentNextLine := pattern
    "^((.*=>\\s*)|((.*[^\\w]+|\\s*)(if|while|for)\\s*\\(.*\\)\\s*))$"
  unindentedLine := pattern
    ("^(\\t|[ ])*[ ]\\*[^/]*\\*/\\s*$|^(\\t|[ ])*[ ]\\*/\\s*$"
      ++ "|^(\\t|[ ])*\\*([ ]([^*]|\\*(?!/))*)?$")

/-- The grammar of languages with blocks in curly brackets. -/
def blockGrammar : Grammar where
  lineComments := ["//".toList]
  blockComments := [⟨"/*".toList, "*/".toList⟩]
  quotes := ["\"".toList, "'".toList, "`".toList]
  regexLiterals := true

/-- Plain text. -/
def plaintext : Language where
  id := "plaintext"
  extensions := [".txt".toList]

/-- JavaScript. -/
def javascript : Language where
  id := "javascript"
  brackets := some [curly, square, round]
  grammar := blockGrammar
  rules := some blockRules
  extensions := [".js".toList, ".mjs".toList, ".cjs".toList, ".jsx".toList]

/-- TypeScript. -/
def typescript : Language where
  id := "typescript"
  brackets := some [curly, square, round]
  grammar := blockGrammar
  rules := some blockRules
  extensions := [".ts".toList, ".mts".toList, ".cts".toList, ".tsx".toList]

/-- CSS. -/
def css : Language where
  id := "css"
  brackets := some [curly, square, round]
  grammar :=
    { blockComments := [⟨"/*".toList, "*/".toList⟩], quotes := ["\"".toList, "'".toList] }
  rules := some
    { increase := pattern "(^.*\\\x7b[^\x7d]*$)"
      decrease := pattern "^\\s*\\\x7d" }
  extensions := [".css".toList]

/-- Python. -/
def python : Language where
  id := "python"
  brackets := some [curly, square, round]
  grammar := { lineComments := ["#".toList], quotes := ["\"".toList, "'".toList] }
  rules := some
    { increase := pattern
        ("^\\s*((async\\s+)?(class|def|elif|else|except|finally|for|if|try|while|with|match|case)"
          ++ "\\b.*:|.*[(\\[\x7b])\\s*(#.*)?$")
      decrease := pattern "^\\s*((elif|else|except|finally)\\b.*:|[)\\]\x7d])" }
  extensions := [".py".toList, ".pyi".toList]

/-- The elements of HTML that never take a closing tag and so never open a block. -/
def voidElements : String :=
  "area|base|br|col|embed|hr|img|input|link|meta|param|source|track|wbr"

/-- HTML. -/
def html : Language where
  id := "html"
  brackets := some [⟨["<!--".toList], ["-->".toList]⟩, ⟨["<".toList], [">".toList]⟩, curly, round]
  grammar :=
    { blockComments := [⟨"<!--".toList, "-->".toList⟩]
      embedded :=
        [⟨"<script>".toList, "</script>".toList, "javascript"⟩,
          ⟨"<style>".toList, "</style>".toList, "css"⟩] }
  rules := some
    { increase := pattern
        ("(?i)<(?!\\?|(?:" ++ voidElements
          ++ ")\\b|[^>]*/>)([-_.A-Za-z0-9]+)(?=\\s|>)\\b[^>]*>(?!.*</\\1>)"
          ++ "|<!--(?!.*-->)|\\\x7b[^\x7d\"']*$")
      decrease := pattern "(?i)^\\s*(</(?!html)[-_.A-Za-z0-9]+\\b[^>]*>|-->|\\\x7d)" }
  extensions := [".html".toList, ".htm".toList]

/-- The built-in languages. -/
def languages : List Language :=
  [plaintext, javascript, typescript, css, python, html]

end Builtin

/-- The registry of the built-in languages. -/
def Registry.builtin : Registry :=
  .ofList Builtin.languages

end Indentation
