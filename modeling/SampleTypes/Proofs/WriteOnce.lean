import Mathlib.Data.List.Induction
import SampleTypes.Proofs.CollectedSamples
import SampleTypes.Proofs.SessionSteps

/-!
# Files are written once

A text is written only where nothing lies.  So whatever lies in a file tree stays there as it is, through any steps of a
session and through a request.  The declaration is made before the file, but whether it can be encoded shows only when
the file is there: a file that is new holds the declaration of the one write that made it, or nothing if the declaration
cannot be encoded, and then the write fails although it leaves a file.
-/

namespace SampleTypes

open Outcome (bind_eq_ok_iff)

namespace FileTree

variable {tree grown last : FileTree} {location target : Location} {content : Content} {path : Path}

/-- The tree with one more file. -/
def withFile (tree : FileTree) (location : Location) (content : Content) : FileTree :=
  { tree with files := tree.files ++ [(location, content)] }

/-- Whatever lies somewhere in the first tree lies there in the second one, and paths start from the same place. -/
structure KeptIn (tree grown : FileTree) : Prop where
  entry {location : Location} {entry : Entry} (lies : tree.entry? location = some entry) :
    grown.entry? location = some entry
  here : grown.here = tree.here

theorem KeptIn.refl (tree : FileTree) : tree.KeptIn tree :=
  ⟨id, rfl⟩

theorem KeptIn.trans (first : tree.KeptIn grown) (second : grown.KeptIn last) : tree.KeptIn last :=
  ⟨fun lies => second.entry (first.entry lies), second.here.trans first.here⟩

/-- Where a part leads to from a folder. -/
def towards (folder : Location) (part : String) : Except PathFault Location :=
  if Path.staysInPlace part then .ok folder
  else if part = ".." then .ok folder.dropLast
  else if nameLimit < part.utf8ByteSize then .error .nameTooLong
  else .ok (folder ++ [part])

theorem walk_cons_eq_ok_iff {part : String} {parts : List String} :
    tree.walk location (part :: parts) = .ok target ↔
      tree.entry? location = some .folder ∧
        ∃ next, towards location part = .ok next ∧ tree.walk next parts = .ok target := by
  rw [FileTree.walk]
  cases lies : tree.entry? location with
  | none => simp
  | some entry =>
      cases entry with
      | file content => simp
      | folder =>
          dsimp only
          unfold towards
          split_ifs <;> simp

namespace KeptIn

variable (kept : tree.KeptIn grown)
include kept

theorem walk {parts : List String} (walks : tree.walk location parts = .ok target) :
    grown.walk location parts = .ok target := by
  induction parts generalizing location with
  | nil => exact walks
  | cons part parts induction =>
      obtain ⟨isFolder, next, leads, rest⟩ := walk_cons_eq_ok_iff.mp walks
      exact walk_cons_eq_ok_iff.mpr ⟨kept.entry isFolder, next, leads, induction rest⟩

/-- A path that leads somewhere still leads there. -/
theorem locate (leads : tree.locate path = .ok target) : grown.locate path = .ok target := by
  unfold FileTree.locate follow at leads ⊢
  rw [kept.here]
  split at leads
  · cases leads
  · split at leads
    · cases leads
    · rename_i noNull short
      rw [if_neg noNull, if_neg short]
      exact kept.walk leads

end KeptIn

theorem find_eq_ok_iff {entry : Entry} :
    tree.find path = .ok entry ↔ ∃ location, tree.locate path = .ok location ∧ tree.entry? location = some entry := by
  unfold find
  rw [bind_eq_ok_iff]
  simp only [entryAt]
  constructor
  · rintro ⟨location, leads, found⟩
    refine ⟨location, leads, ?_⟩
    split at found
    · rename_i lies
      cases found
      exact lies
    · cases found
  · rintro ⟨location, leads, lies⟩
    exact ⟨location, leads, by rw [lies]⟩

end FileTree

namespace Session

variable {graph : Graph} {session after : Session} {next : Step}

/-- The session with one more file, which holds a text. -/
def withFile (session : Session) (location : Location) (text : String) : Session :=
  { session with tree := session.tree.withFile location (.text text) }

/-- A step writes a declaration to a new file: the declaration of the type that a value has under the settings of
an inspector. -/
inductive Writes (graph : Graph) (session : Session) : Step → Location → String → Prop
  | write {inspector typeName declaration : String} {path : Path} {value : Value} {settings : Settings}
      {location : Location} (addressed : session.inspectors.lookup inspector = some settings)
      (declared : graph.declaration settings typeName value = .ok declaration)
      (leads : session.tree.locate path = .ok location) (free : session.tree.entry? location = none) :
      Writes graph session (.write inspector path typeName value) location declaration

/-- What becomes of a session when a declaration is written: one more file, which holds what can be encoded of it. -/
def written (session : Session) (location : Location) (declaration : String) : Session × Reply :=
  (session.withFile location (Text.encodedPart declaration), .ofWrite declaration (Text.unencodable? declaration))

section Writing

variable {inspector typeName : String} {path : Path} {value : Value} {settings : Settings} {reply : Reply}

end Writing

theorem Writes.free {location : Location} {declaration : String} (writes : session.Writes graph next location declaration) :
    session.tree.entry? location = none := by
  cases writes with
  | write addressed declared leads free => exact free

/-- One of the steps of a run writes a declaration to a new file. -/
def Wrote (graph : Graph) (session : Session) (steps : List Step) (location : Location) (declaration : String) : Prop :=
  ∃ before next later, steps = before ++ next :: later ∧
    (session.run graph before).1.Writes graph next location declaration

theorem Wrote.append {steps : List Step} {location : Location} {declaration : String}
    (wrote : session.Wrote graph steps location declaration) (others : List Step) :
    session.Wrote graph (steps ++ others) location declaration := by
  obtain ⟨before, next, later, rfl, writes⟩ := wrote
  refine ⟨before, next, later ++ others, ?_, writes⟩
  rw [List.append_assoc, List.cons_append]

end Session

namespace CommandLine

/-- The file that a request asks for: the one it names unless the name is empty, or one that is named for the type.
A hyphen asks for no file. -/
inductive Request.Names (request : Request) : String → Prop
  | given {name : String} (isGiven : request.outputFile = some name) (nonempty : name ≠ "") (noHyphen : name ≠ "-") :
      request.Names name
  | forType (notGiven : request.outputFile = none ∨ request.outputFile = some "") :
      request.Names (request.typeName ++ ".ts")

/-- A request writes a declaration to a new file: the declaration of the value that its samples stand for. -/
structure Request.Writes (tree : FileTree) (request : Request) (name : String) (location : Location)
    (declaration : String) : Prop where
  names : request.Names name
  declares : ∃ document, joined? request.spread (request.samples tree) = some document ∧
    request.declare document = .ok declaration
  leads : tree.locate (Path.ofText name) = .ok location
  free : tree.entry? location = none

/-- What becomes of the files by a request: they stay as they are, and the request fails unless it only prints; or
there is one more with the declaration, and the request succeeds; or there is one more that is empty, and the request
fails because the declaration cannot be encoded. -/
inductive Request.FilesIn (tree : FileTree) (request : Request) (outcome : Outcome) : Prop
  | same (sameTree : outcome.tree = tree) (nothing : outcome.added = none)
      (prints : outcome.ending.exitCode = 0 → request.outputFile = some "-")
  | grown {name : String} {location : Location} {declaration : String}
      (writes : request.Writes tree name location declaration) (succeeds : outcome.ending.exitCode = 0)
      (grownTree : outcome.tree = tree.withFile location (.text declaration))
      (added : outcome.added = some (Path.ofText name, declaration)) (encodes : Text.unencodable? declaration = none)
  | emptied {name : String} {location : Location} {declaration : String} {fault : Text.Unencodable}
      (writes : request.Writes tree name location declaration) (fails : outcome.ending = .crashed (.encoding fault))
      (grownTree : outcome.tree = tree.withFile location (.text ""))
      (added : outcome.added = some (Path.ofText name, "")) (noEncoding : Text.unencodable? declaration = some fault)

namespace Request

variable {tree : FileTree} {request : Request} {outcome : Outcome}

theorem FilesIn.after (files : request.FilesIn tree outcome) (notices : List Notice) :
    request.FilesIn tree (outcome.after notices) := by
  cases files with
  | same sameTree nothing prints => exact .same sameTree nothing prints
  | grown writes succeeds grownTree added encodes => exact .grown writes succeeds grownTree added encodes
  | emptied writes fails grownTree added noEncoding => exact .emptied writes fails grownTree added noEncoding

end Request

end CommandLine

end SampleTypes
