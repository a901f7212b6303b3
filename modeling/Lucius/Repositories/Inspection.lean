import Lucius.Lib.Pattern
import Lucius.Repositories.GitMutation

/-! What the path of a file says of it. -/

namespace Lucius.Worktree

def defaultExclusions : List String :=
  [".git", "node_modules", ".venv", "venv", "dist", "build", "coverage", "__pycache__", ".cache", "vendor"]

def isExcluded (path : String) : Bool :=
  (pathParts path).any (fun part => decide (String.ofList part ∈ defaultExclusions))

def pathName (path : String) : List Char := (pathParts path).getLast?.getD []

/-- From the last dot on, which neither starts nor ends the name. -/
def pathSuffix (path : String) : List Char :=
  let name := pathName path
  let ending := (name.reverse.takeWhile (· ≠ '.')).reverse
  if '.' ∈ name ∧ ending ≠ [] ∧ ending.length + 1 < name.length then '.' :: ending else []

def sensitiveExact : List String := [".env", "credentials"]

/-- A letter in either case, and the letters past ASCII whose lower case it is. -/
def caseless (letter : Char) : Pattern :=
  .one (fun char => char.toLower = letter || match letter with
    | 'i' => char = 'İ' || char = 'ı'
    | 's' => char = 'ſ'
    | 'k' => char = '\u212a'
    | _ => false)

def caselessWord (word : String) : Pattern := Pattern.sequence (word.toList.map caseless)

def anyChar : Pattern := .one (· ≠ '\n')

def sensitivePatterns : List Pattern :=
  [Pattern.sequence [Pattern.literal ".env.", Pattern.atLeast 1 anyChar],
    Pattern.sequence [.many anyChar, caselessWord "private", .optional (.one (fun char => char = '_' || char = '-')),
      caselessWord "key", .many anyChar],
    Pattern.sequence [.many anyChar, caselessWord "credentials", .many anyChar],
    Pattern.sequence [.many anyChar, caselessWord "secret", .many anyChar]]

def startsWithPattern (pattern : Pattern) (chars : List Char) : Bool :=
  !(Pattern.ends pattern none chars).isEmpty

def isSensitivePath (path : String) : Bool :=
  let name := pathName path
  decide (String.ofList name ∈ sensitiveExact) ||
    sensitivePatterns.any (fun pattern =>
      startsWithPattern pattern name || startsWithPattern pattern path.toList)

def classifyFileType (path : String) : String :=
  let suffix := String.ofList ((pathSuffix path).map Char.toLower)
  if suffix ∈ [".md", ".rst", ".txt"] then "text"
  else if suffix ∈ [".png", ".jpg", ".jpeg", ".gif", ".webp", ".ico", ".pdf"] then "binary"
  else if suffix.toList.isEmpty then "file"
  else String.ofList (suffix.toList.drop 1)

example : isSensitivePath "config/Private-Key.pem" = true ∧ isSensitivePath "src/main.py" = false := by
  decide +kernel

end Lucius.Worktree
