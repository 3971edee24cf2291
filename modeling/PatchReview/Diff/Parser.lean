import PatchReview.Diff.Header
import PatchReview.Text.Blank

/-!
# Reading a diff

A diff text is read line by line into a state: the files so far, the file at hand, and its open
hunk. A hunk takes every line as content while its header still expects lines; afterwards lines
that begin like extended headers are headers again. Text outside of all files is passed over.
The only failure is a number in a hunk header with too many digits.
-/

namespace PatchReview
namespace Diff

/-! ## State -/

/-- A hunk that is being read, with the numbers of old and new lines that its header still
expects. -/
structure OpenHunk where
  header : Header
  lines : Array Line := #[]
  oldRoom : Nat
  newRoom : Nat

namespace OpenHunk

/-- The hunk below a header, before any of its lines. -/
def ofHeader (h : Header) : OpenHunk :=
  { header := h, oldRoom := h.oldCount, newRoom := h.newCount }

def expectsMore (h : OpenHunk) : Bool := 0 < h.oldRoom || 0 < h.newRoom

/-- Takes a line; an addition takes no old room and a deletion no new room. -/
def add (h : OpenHunk) (line : Line) : OpenHunk :=
  { h with
    lines := h.lines.push line
    oldRoom := if line.kind == .addition then h.oldRoom else h.oldRoom - 1
    newRoom := if line.kind == .deletion then h.newRoom else h.newRoom - 1 }

def close (h : OpenHunk) : Hunk := { header := h.header, lines := h.lines.toList }

end OpenHunk

/-- The file that lines belong to, and its hunk that is being read. -/
structure Focus where
  path : String
  hunk : Option OpenHunk := none

/-- What has been read so far. -/
structure ReadState where
  files : List File := []
  focus : Option Focus := none

def updateFile (path : String) (change : File → File) (files : List File) : List File :=
  files.map fun f => if f.path == path then change f else f

/-- Appends a file that has no hunks yet, unless the path is there already. -/
def ensureFile (path : String) (files : List File) : List File :=
  if files.any (·.path == path) then files else files ++ [{ path := path }]

/-- Puts the open hunk into its file. -/
def ReadState.flush (s : ReadState) : ReadState :=
  match s.focus with
  | some { path, hunk := some hunk } =>
    { files := updateFile path (fun f => { f with hunks := f.hunks ++ [hunk.close] }) s.files
      focus := some { path := path } }
  | _ => s

/-! ## Lines -/

/-- A line of a hunk by its marker. Lines without a marker are context, but an empty line only
where the header still expects lines, and a line behind a backslash never. -/
def bodyLine? (expected : Bool) : List Char → Option Line
  | '+' :: s => some ⟨.addition, String.ofList s⟩
  | '-' :: s => some ⟨.deletion, String.ofList s⟩
  | ' ' :: s => some ⟨.context, String.ofList s⟩
  | '\\' :: _ => none
  | [] => if expected then some ⟨.context, ""⟩ else none
  | s => some ⟨.context, String.ofList s⟩

/-- What an extended header says about its file. -/
inductive ExtendedHeader where
  | status (status : Status)
  | origin (status : Status) (oldPath : String)
  | ignored
  deriving DecidableEq, Repr

/-- The extended header that a line is. -/
def ExtendedHeader.ofLine? (line : List Char) : Option ExtendedHeader :=
  if Text.startsWith "new file mode" line then some (.status .added)
  else if Text.startsWith "deleted file mode" line then some (.status .deleted)
  else match Text.afterStart? "rename from ".toList line with
  | some path => some (.origin .renamed (String.ofList path))
  | none =>
    match Text.afterStart? "copy from ".toList line with
    | some path => some (.origin .copied (String.ofList path))
    | none =>
      if Text.startsWith "index " line || Text.startsWith "---" line || Text.startsWith "+++" line
      then some .ignored else none

/-- Records what an extended header says. -/
def ExtendedHeader.apply : ExtendedHeader → File → File
  | .status new, f => { f with status := new }
  | .origin new oldPath, f => { f with status := new, oldPath := some oldPath }
  | .ignored, f => f

/-- Adds a line to the open hunk, if the line is one of content. -/
def Focus.addLine (f : Focus) (hunk : OpenHunk) (line : Option Line) : Focus :=
  match line with
  | some line => { f with hunk := some (hunk.add line) }
  | none => f

/-- Reads a line below a file header that is no header of a file or hunk. -/
def ReadState.readBody (s : ReadState) (focus : Focus) (line : List Char) : ReadState :=
  match focus.hunk with
  | some hunk =>
    if hunk.expectsMore then { s with focus := some (focus.addLine hunk (bodyLine? true line)) }
    else match ExtendedHeader.ofLine? line with
      | some header => { s with files := updateFile focus.path header.apply s.files }
      | none => { s with focus := some (focus.addLine hunk (bodyLine? false line)) }
  | none =>
    match ExtendedHeader.ofLine? line with
    | some header => { s with files := updateFile focus.path header.apply s.files }
    | none => s

/-- Turns to the file of a file header; a header without a path leads to no file. -/
def ReadState.openFile (s : ReadState) (line : List Char) : ReadState :=
  let s := s.flush
  match headerPath? line with
  | some path =>
    let path := String.ofList path
    { files := ensureFile path s.files, focus := some { path := path } }
  | none => { s with focus := none }

/-- Opens the hunk of a hunk header; a malformed header opens none. -/
def ReadState.openHunk (s : ReadState) (line : List Char) : Except Decimal.LimitError ReadState :=
  let s := s.flush
  match s.focus with
  | none => .ok s
  | some focus =>
    match HeaderText.read? line with
    | none => .ok s
    | some text => do
      let header ← text.toHeader
      return { s with focus := some { focus with hunk := some (.ofHeader header) } }

def ReadState.step (s : ReadState) (line : List Char) : Except Decimal.LimitError ReadState :=
  if Text.startsWith "diff --git" line then .ok (s.openFile line)
  else if Text.startsWith "@@" line then s.openHunk line
  else match s.focus with
    | none => .ok s
    | some focus => .ok (s.readBody focus line)

/-! ## Texts -/

/-- Drops the last line if it is empty, as it is after a final line end. -/
def dropFinalEmpty (lines : List (List Char)) : List (List Char) :=
  if lines.getLast? == some [] then lines.dropLast else lines

/-- The lines of a diff text, without byte order marks before the first and carriage returns at
their ends. -/
def textLines (text : List Char) : List (List Char) :=
  dropFinalEmpty ((Text.splitAtChar '\n' (text.dropWhile (· == '\ufeff'))).map
    (Text.dropEnd (· == '\r')))

def ofLines (lines : List (List Char)) : Except Decimal.LimitError Diff := do
  let s ← lines.foldlM ReadState.step {}
  return { files := s.flush.files }

/-- Reads a diff text. -/
def parse (text : String) : Except Decimal.LimitError Diff := ofLines (textLines text.toList)

end Diff
end PatchReview
