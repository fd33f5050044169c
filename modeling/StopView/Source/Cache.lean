import StopView.FileSystem
import StopView.Notice
import StopView.Text.Pieces
import StopView.Text.Utf8

/-!
# The source cache

A source file is read once and kept as lines without blanks at their ends.  The cache
is asked by path: any spelling of a path finds the file that another spelling of it
brought in.  A file that cannot be read leaves the cache as it is and is tried again
the next time.
-/

namespace StopView

/-- A highlighter turns the text of a file into the text that is shown. -/
abbrev Highlighter := String → Path → String

/-- The highlighter that changes nothing. -/
def plainHighlighter : Highlighter :=
  fun text _ => text

/-- The files that have been read, each under the spelling that brought it in. -/
structure SourceCache where
  files : List (Path × List String)
deriving Repr, DecidableEq

/-- The answer to a question for a file, and the cache afterwards. -/
structure CacheAnswer where
  lines : Except Failure (List String)
  cache : SourceCache

namespace SourceCache

/-- The cache before anything was read. -/
def empty : SourceCache :=
  ⟨[]⟩

/-- The lines of a file that has been read. -/
def find? (cache : SourceCache) (path : Path) : Option (List String) :=
  (cache.files.find? fun item => decide (Path.Same item.1 path)).map Prod.snd

/-- Keep the lines of a file. -/
def insert (cache : SourceCache) (path : Path) (lines : List String) : SourceCache :=
  ⟨cache.files ++ [(path, lines)]⟩

/-- How many files are kept. -/
def size (cache : SourceCache) : Nat :=
  cache.files.length

/-- A file that was not kept before is found under every spelling of its path. -/
theorem find?_insert {cache : SourceCache} {path asked : Path} {lines : List String}
    (absent : cache.find? path = none) :
    (cache.insert path lines).find? asked =
      if Path.Same path asked then some lines else cache.find? asked := by
  simp only [find?, insert, List.find?_append, Option.map_eq_none_iff] at absent ⊢
  by_cases same : Path.Same path asked
  · have missing : cache.files.find? (fun item => decide (Path.Same item.1 asked)) = none := by
      rw [← absent]
      congr 1
      funext item
      exact decide_eq_decide.mpr
        ⟨fun found => found.trans same.symm, fun found => found.trans same⟩
    simp [missing, same]
  · simp [same]

/-- The lines of a text as they are kept. -/
def linesOfText (text : String) : List String :=
  (Text.lines text).map Text.trimEnd

/-- The lines of a file's bytes as they are kept. -/
def linesOfBytes (highlighter : Highlighter) (path : Path) (highlight : Bool)
    (bytes : ByteArray) : List String :=
  let text := Text.decodeLossy bytes
  linesOfText (if highlight then highlighter text path else text)

/-- Ask for the lines of a file. -/
def lines (cache : SourceCache) (files : FileSystem) (highlighter : Highlighter) (path : Path)
    (highlight : Bool) : Noted CacheAnswer :=
  match cache.find? path with
  | some lines => pure ⟨.ok lines, cache⟩
  | none =>
      match files.read path with
      | .error cause => pure ⟨.error (.io cause), cache⟩
      | .ok bytes =>
          let lines := linesOfBytes highlighter path highlight bytes
          ⟨⟨.ok lines, cache.insert path lines⟩, [.sourceRead]⟩

end SourceCache

end StopView
