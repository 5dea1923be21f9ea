import CustomResource.Proofs.Path
import CustomResource.Proofs.Registry.Containment
import CustomResource.Proofs.Registry.Replay

/-!
# Looking types up

A registry is filled by visiting declarations: files in the order they were added, the messages declared
inside a message before the message itself.  `File.messageVisits` and `File.enumVisits` list the visits, each
with the path that leads to the declaration.  If every declared name is a segment, a lookup finds the last
visit of the path it is given, and nothing under any other text.
-/

namespace CustomResource

open Descriptor

/-! ## Visits -/

/-- A declaration of a file, with the path that leads to it. -/
structure Visit (α : Type) where
  file : File
  path : List String
  declaration : α

mutual

/-- The messages that a message in a scope declares, the message itself after those inside it. -/
def Descriptor.Message.visits (file : File) (scope : List String) : Message → List (Visit Message)
  | ⟨name, fields, messages, enums, options, oneofs⟩ =>
      let path := scope ++ [name.getD ""]
      visitsInside file path messages ++ [⟨file, path, ⟨name, fields, messages, enums, options, oneofs⟩⟩]

/-- The messages that messages in a scope declare, in order. -/
def visitsInside (file : File) (scope : List String) : List Message → List (Visit Message)
  | [] => []
  | message :: rest => message.visits file scope ++ visitsInside file scope rest

end

/-- Enums declared in a scope. -/
def enumVisitsInside (file : File) (scope : List String) (enums : List Enum) : List (Visit Enum) :=
  enums.map fun enum => ⟨file, scope ++ [enum.name.getD ""], enum⟩

namespace Visit

/-- The enums that a message declares directly. -/
def enumVisits (visit : Visit Message) : List (Visit Enum) :=
  enumVisitsInside visit.file visit.path visit.declaration.enums

/-- What is registered for a message: its own parts, and those of its file. -/
def entry (visit : Visit Message) : MessageEntry where
  name := visit.declaration.name
  fields := visit.declaration.fields
  options := visit.declaration.options
  oneofs := visit.declaration.oneofs
  package := visit.file.package.getD ""
  dialect := .ofText visit.file.dialect

end Visit

namespace Descriptor.File

/-- The path that the names in a file begin with. -/
def scope (file : File) : List String :=
  packagePath (file.package.getD "")

/-- All messages of a file. -/
def messageVisits (file : File) : List (Visit Message) :=
  visitsInside file file.scope file.messages

/-- All enums of a file. -/
def enumVisits (file : File) : List (Visit Enum) :=
  file.messageVisits.flatMap (·.enumVisits) ++ enumVisitsInside file file.scope file.enums

/-- Every message and every enum of the file, at any depth, has a name that can be a segment. -/
structure WellNamed (file : File) : Prop where
  messages : ∀ visit ∈ file.messageVisits, IsSegment (visit.declaration.name.getD "")
  enums : ∀ visit ∈ file.enumVisits, IsSegment (visit.declaration.name.getD "")

end Descriptor.File

/-! ## Paths of visits -/

mutual

theorem isSegment_of_mem_visits {file : File} {scope : List String}
    (hscope : ∀ name ∈ scope, IsSegment name) :
    ∀ message : Message,
      (∀ visit ∈ message.visits file scope, IsSegment (visit.declaration.name.getD "")) →
      ∀ visit ∈ message.visits file scope, ∀ name ∈ visit.path, IsSegment name
  | ⟨name, fields, messages, enums, options, oneofs⟩, hnames => by
      rw [Message.visits, List.forall_mem_append, List.forall_mem_singleton] at hnames ⊢
      have hpath : ∀ segment ∈ scope ++ [name.getD ""], IsSegment segment :=
        List.forall_mem_append.2 ⟨hscope, List.forall_mem_singleton.2 hnames.2⟩
      exact ⟨isSegment_of_mem_visitsInside hpath messages hnames.1, hpath⟩

theorem isSegment_of_mem_visitsInside {file : File} {scope : List String}
    (hscope : ∀ name ∈ scope, IsSegment name) :
    ∀ messages : List Message,
      (∀ visit ∈ visitsInside file scope messages, IsSegment (visit.declaration.name.getD "")) →
        ∀ visit ∈ visitsInside file scope messages, ∀ name ∈ visit.path, IsSegment name
  | [], _ => by simp [visitsInside]
  | message :: rest, hnames => by
      rw [visitsInside, List.forall_mem_append] at hnames ⊢
      exact ⟨isSegment_of_mem_visits hscope message hnames.1,
        isSegment_of_mem_visitsInside hscope rest hnames.2⟩

end

theorem Descriptor.File.WellNamed.isSegment_messages {file : File} (h : file.WellNamed) :
    ∀ visit ∈ file.messageVisits, ∀ name ∈ visit.path, IsSegment name :=
  isSegment_of_mem_visitsInside (fun _ hname => isSegment_of_mem_packagePath hname) file.messages h.messages

theorem isSegment_of_mem_enumVisitsInside {file : File} {scope : List String}
    (hscope : ∀ name ∈ scope, IsSegment name) {enums : List Enum} {visit : Visit Enum}
    (hvisit : visit ∈ enumVisitsInside file scope enums)
    (hname : IsSegment (visit.declaration.name.getD "")) : ∀ name ∈ visit.path, IsSegment name := by
  obtain ⟨enum, _, rfl⟩ := List.mem_map.1 hvisit
  exact List.forall_mem_append.2 ⟨hscope, List.forall_mem_singleton.2 hname⟩

theorem Descriptor.File.WellNamed.isSegment_enums {file : File} (h : file.WellNamed) :
    ∀ visit ∈ file.enumVisits, ∀ name ∈ visit.path, IsSegment name := by
  intro visit hvisit
  have hname := h.enums visit hvisit
  rcases List.mem_append.1 hvisit with hinside | htop
  · obtain ⟨message, hmessage, hvisit⟩ := List.mem_flatMap.1 hinside
    exact isSegment_of_mem_enumVisitsInside (h.isSegment_messages message hmessage) hvisit hname
  · exact isSegment_of_mem_enumVisitsInside (fun _ h => isSegment_of_mem_packagePath h) htop hname

/-! ## Visits as declarations -/

namespace Declarations

/-- What visits declare, each under the text of its path. -/
def ofVisits (messages : List (Visit Message)) (enums : List (Visit Enum)) : Declarations where
  messages := messages.map fun visit => (pathText visit.path, visit.entry)
  enums := enums.map fun visit => (pathText visit.path, visit.declaration)

/-- What visits declare, each under the name that joining its path makes. -/
def ofJoined (messages : List (Visit Message)) (enums : List (Visit Enum)) : Declarations where
  messages := messages.map fun visit => ((QualifiedName.joinAll visit.path).text, visit.entry)
  enums := enums.map fun visit => ((QualifiedName.joinAll visit.path).text, visit.declaration)

theorem ofJoined_append (messages others : List (Visit Message)) (enums more : List (Visit Enum)) :
    ofJoined messages enums ++ ofJoined others more = ofJoined (messages ++ others) (enums ++ more) := by
  rw [ofJoined, ofJoined, ofJoined, List.map_append, List.map_append]
  rfl

/-- Paths of segments are joined to their texts. -/
theorem ofJoined_eq_ofVisits {messages : List (Visit Message)} {enums : List (Visit Enum)}
    (hmessages : ∀ visit ∈ messages, ∀ name ∈ visit.path, IsSegment name)
    (henums : ∀ visit ∈ enums, ∀ name ∈ visit.path, IsSegment name) :
    ofJoined messages enums = .ofVisits messages enums := by
  rw [ofJoined, ofVisits, Declarations.mk.injEq]
  constructor
  · exact List.map_congr_left fun visit hvisit => by rw [text_joinAll_of_isSegment (hmessages visit hvisit)]
  · exact List.map_congr_left fun visit hvisit => by rw [text_joinAll_of_isSegment (henums visit hvisit)]

theorem ofEnums_eq_ofJoined (file : File) (path : List String) (enums : List Enum) :
    ofEnums (.joinAll path) enums = .ofJoined [] (enumVisitsInside file path enums) := by
  rw [ofEnums, ofJoined, enumVisitsInside, List.map_map]
  simp only [← QualifiedName.joinAll_concat]
  rfl

variable {file : File}

mutual

theorem ofMessage_eq_ofJoined (path : List String) :
    ∀ message : Message,
      ofMessage (file.package.getD "") (.ofText file.dialect) (.joinAll path) message =
        .ofJoined (message.visits file path) ((message.visits file path).flatMap (·.enumVisits))
  | ⟨name, fields, messages, enums, options, oneofs⟩ => by
      -- The name of the message is the end of its own path and the scope of what is inside it.
      rw [ofMessage, Message.visits, ← QualifiedName.joinAll_concat, ofMessages_eq_ofJoined _ messages,
        ofEnums_eq_ofJoined file, ofJoined_append, List.append_nil, List.flatMap_append,
        List.flatMap_singleton]
      refine (ofJoined_append _ [⟨file, path ++ [name.getD ""],
        ⟨name, fields, messages, enums, options, oneofs⟩⟩] _ []).trans ?_
      rw [List.append_nil]
      rfl

theorem ofMessages_eq_ofJoined (path : List String) :
    ∀ messages : List Message,
      ofMessages (file.package.getD "") (.ofText file.dialect) (.joinAll path) messages =
        .ofJoined (visitsInside file path messages)
          ((visitsInside file path messages).flatMap (·.enumVisits))
  | [] => rfl
  | message :: rest => by
      rw [ofMessages, visitsInside, ofMessage_eq_ofJoined path message, ofMessages_eq_ofJoined path rest,
        ofJoined_append, List.flatMap_append]

end

/-- A file declares its visits. -/
theorem ofFile_eq_ofJoined (file : File) : ofFile file = .ofJoined file.messageVisits file.enumVisits := by
  have hscope : QualifiedName.ofParts (file.package.getD "") [] "" = .joinAll file.scope := by
    have hscope : ∀ name ∈ file.scope, IsSegment name := fun _ h => isSegment_of_mem_packagePath h
    rw [← QualifiedName.text_inj, QualifiedName.text_ofParts_package, text_joinAll_of_isSegment hscope]
    rfl
  simp only [ofFile, hscope]
  rw [ofMessages_eq_ofJoined, ofEnums_eq_ofJoined file, ofJoined_append, List.append_nil]
  rfl

theorem ofFiles_eq_ofJoined (files : FileSet) :
    ofFiles files = .ofJoined (files.flatMap (·.messageVisits)) (files.flatMap (·.enumVisits)) := by
  simp only [ofFiles, ofFile_eq_ofJoined]
  rw [ofJoined, List.map_flatMap, List.map_flatMap]
  rfl

end Declarations

/-! ## Lookups -/

section

variable {α β : Type} {path : List String} {visits : List (Visit α)}

/-- The last visit of a path. -/
def lastVisit? (path : List String) (visits : List (Visit α)) : Option (Visit α) :=
  (visits.filter (·.path = path)).getLast?

theorem lastVisit?_isSome_iff :
    (lastVisit? path visits).isSome = true ↔ ∃ visit ∈ visits, visit.path = path := by
  rw [lastVisit?, List.getLast?_isSome, ne_eq, List.filter_eq_nil_iff]
  simp

theorem mem_of_lastVisit? {visit : Visit α} (h : lastVisit? path visits = some visit) :
    visit ∈ visits ∧ visit.path = path := by
  obtain ⟨hmem, hpath⟩ := List.mem_filter.1 (List.mem_of_getLast? h)
  exact ⟨hmem, by simpa using hpath⟩

/-- The text of a path is the name of the visits of that path. -/
theorem lastNamed?_pathText {value : Visit α → β}
    (hvisits : ∀ visit ∈ visits, ∀ name ∈ visit.path, IsSegment name)
    (hpath : ∀ name ∈ path, IsSegment name) :
    lastNamed? (pathText path) (visits.map fun visit => (pathText visit.path, value visit)) =
      (lastVisit? path visits).map value := by
  have hsame : ∀ visit ∈ visits, (pathText visit.path == pathText path) = decide (visit.path = path) := by
    intro visit hvisit
    rw [Bool.eq_iff_iff, beq_iff_eq, decide_eq_true_iff, pathText_inj (hvisits visit hvisit) hpath]
  rw [lastNamed?, lastVisit?, List.filter_map, List.getLast?_map, Option.map_map]
  simp only [Function.comp_def]
  rw [List.filter_congr hsame]

/-- What visits register under a name, one of the visits of this name registers. -/
theorem exists_visit_of_lastNamed? {nameOf : Visit α → String} {value : Visit α → β} {name : String}
    {found : β} (h : lastNamed? name (visits.map fun visit => (nameOf visit, value visit)) = some found) :
    ∃ visit ∈ visits, nameOf visit = name ∧ value visit = found := by
  obtain ⟨entry, hlast, hfound⟩ := Option.map_eq_some_iff.1 h
  obtain ⟨hentry, hname⟩ := List.mem_filter.1 (List.mem_of_getLast? hlast)
  obtain ⟨visit, hvisit, rfl⟩ := List.mem_map.1 hentry
  exact ⟨visit, hvisit, by simpa using hname, hfound⟩

end

/-- The messages that the kept files declare, in the order they are visited. -/
def messageVisits (files : FileSet) : List (Visit Message) :=
  (keptFiles files).flatMap (·.messageVisits)

/-- The enums that the kept files declare, in the order they are visited. -/
def enumVisits (files : FileSet) : List (Visit Enum) :=
  (keptFiles files).flatMap (·.enumVisits)

section

variable {α : Type} {files : FileSet} {visitsOf : File → List (Visit α)}

/-- A path is visited exactly if the first file of some name declares it. -/
theorem exists_visit_iff {path : List String} :
    (∃ visit ∈ (keptFiles files).flatMap visitsOf, visit.path = path) ↔
      ∃ file, FirstOfName files file ∧ ∃ visit ∈ visitsOf file, visit.path = path := by
  constructor
  · rintro ⟨visit, hvisit, hpath⟩
    obtain ⟨file, hfile, hvisit⟩ := List.mem_flatMap.1 hvisit
    exact ⟨file, mem_keptFiles_iff.1 hfile, visit, hvisit, hpath⟩
  · rintro ⟨file, hfile, visit, hvisit, hpath⟩
    exact ⟨visit, List.mem_flatMap.2 ⟨file, mem_keptFiles_iff.2 hfile, hvisit⟩, hpath⟩

theorem isSegment_of_mem_keptFiles
    (h : ∀ file ∈ files, ∀ visit ∈ visitsOf file, ∀ name ∈ visit.path, IsSegment name) :
    ∀ visit ∈ (keptFiles files).flatMap visitsOf, ∀ name ∈ visit.path, IsSegment name := by
  intro visit hvisit
  obtain ⟨file, hfile, hvisit⟩ := List.mem_flatMap.1 hvisit
  exact h file ((keptFiles_sublist files).mem hfile) visit hvisit

end

section

variable {files : FileSet} (hnames : ∀ file ∈ files, file.WellNamed)

include hnames

theorem isSegment_of_mem_messageVisits :
    ∀ visit ∈ messageVisits files, ∀ name ∈ visit.path, IsSegment name :=
  isSegment_of_mem_keptFiles fun file hfile => (hnames file hfile).isSegment_messages

theorem isSegment_of_mem_enumVisits :
    ∀ visit ∈ enumVisits files, ∀ name ∈ visit.path, IsSegment name :=
  isSegment_of_mem_keptFiles fun file hfile => (hnames file hfile).isSegment_enums

/-- The registry of files holds what their visits declare. -/
theorem types_ofFiles_eq_add_ofVisits :
    (Registry.ofFiles files).types =
      TypeTable.add {} (.ofVisits (messageVisits files) (enumVisits files)) := by
  rw [(Registry.Replayed.ofFiles files).types_eq, Registry.files_ofFiles, Declarations.ofFiles_eq_ofJoined]
  exact congrArg _ (Declarations.ofJoined_eq_ofVisits (isSegment_of_mem_messageVisits hnames)
    (isSegment_of_mem_enumVisits hnames))

theorem getElem?_messages_ofFiles (name : String) :
    (Registry.ofFiles files).types.messages[name]? =
      lastNamed? name ((messageVisits files).map fun visit => (pathText visit.path, visit.entry)) := by
  rw [types_ofFiles_eq_add_ofVisits hnames, TypeTable.getElem?_messages_add]
  exact Option.or_none

theorem getElem?_enums_ofFiles (name : String) :
    (Registry.ofFiles files).types.enums[name]? =
      lastNamed? name ((enumVisits files).map fun visit => (pathText visit.path, visit.declaration)) := by
  rw [types_ofFiles_eq_add_ofVisits hnames, TypeTable.getElem?_enums_add]
  exact Option.or_none

/-- The text of a path, with dots before it, means the last visit of the path. -/
theorem message?_dots_pathText {path : List String} (hpath : ∀ name ∈ path, IsSegment name) (count : Nat) :
    (Registry.ofFiles files).types.message? (String.ofList (List.replicate count '.') ++ pathText path) =
      (lastVisit? path (messageVisits files)).map fun visit => ⟨pathText path, visit.entry⟩ := by
  simp only [TypeTable.message?]
  rw [QualifiedName.text_ofReference_dots hpath, getElem?_messages_ofFiles hnames,
    lastNamed?_pathText (isSegment_of_mem_messageVisits hnames) hpath, Option.map_map]
  rfl

theorem enum?_dots_pathText {path : List String} (hpath : ∀ name ∈ path, IsSegment name) (count : Nat) :
    (Registry.ofFiles files).types.enum? (String.ofList (List.replicate count '.') ++ pathText path) =
      (lastVisit? path (enumVisits files)).map fun visit => ⟨pathText path, visit.declaration⟩ := by
  simp only [TypeTable.enum?]
  rw [QualifiedName.text_ofReference_dots hpath, getElem?_enums_ofFiles hnames,
    lastNamed?_pathText (isSegment_of_mem_enumVisits hnames) hpath, Option.map_map]
  rfl

/-- Only texts of paths are found. -/
theorem exists_path_of_isSome {reference : String}
    (hfound : ((Registry.ofFiles files).types.message? reference).isSome = true ∨
      ((Registry.ofFiles files).types.enum? reference).isSome = true) :
    ∃ path, (∀ name ∈ path, IsSegment name) ∧
      (QualifiedName.ofReference reference).text = pathText path := by
  simp only [TypeTable.message?, TypeTable.enum?, Option.isSome_map, getElem?_messages_ofFiles hnames,
    getElem?_enums_ofFiles hnames, Option.isSome_iff_exists] at hfound
  rcases hfound with ⟨entry, hentry⟩ | ⟨enum, henum⟩
  · obtain ⟨visit, hvisit, hname, -⟩ := exists_visit_of_lastNamed? hentry
    exact ⟨visit.path, isSegment_of_mem_messageVisits hnames visit hvisit, hname.symm⟩
  · obtain ⟨visit, hvisit, hname, -⟩ := exists_visit_of_lastNamed? henum
    exact ⟨visit.path, isSegment_of_mem_enumVisits hnames visit hvisit, hname.symm⟩

/-- The registered messages are the last visits of their paths. -/
theorem registered_iff_exists_lastVisit? {message : MessageType} :
    (Registry.ofFiles files).types.Registered (.message message) ↔
      ∃ path visit, lastVisit? path (messageVisits files) = some visit ∧
        message = ⟨pathText path, visit.entry⟩ := by
  rw [TypeTable.Registered, getElem?_messages_ofFiles hnames]
  constructor
  · intro hentry
    obtain ⟨visit, hvisit, hname, -⟩ := exists_visit_of_lastNamed? hentry
    rw [← hname, lastNamed?_pathText (isSegment_of_mem_messageVisits hnames)
      (isSegment_of_mem_messageVisits hnames visit hvisit), Option.map_eq_some_iff] at hentry
    obtain ⟨last, hlast, hentry⟩ := hentry
    -- The visit only shows that the name is a path; what is registered is the last visit of that path.
    refine ⟨visit.path, last, hlast, ?_⟩
    rw [hentry, hname]
  · rintro ⟨path, visit, hlast, rfl⟩
    obtain ⟨hvisit, rfl⟩ := mem_of_lastVisit? hlast
    have hpath := isSegment_of_mem_messageVisits hnames visit hvisit
    rw [lastNamed?_pathText (isSegment_of_mem_messageVisits hnames) hpath, hlast]
    rfl

end

/-- The listed messages come in strictly ascending order of their full names. -/
theorem listedMessages_pairwise_lt (types : TypeTable) :
    types.listedMessages.Pairwise fun first second => first.fullName < second.fullName := by
  refine List.Pairwise.filter _ (List.Pairwise.map _ ?_ Std.ExtTreeMap.ordered_keys_toList)
  exact fun first second hless => compareOfLessAndEq_eq_lt.1 hless

/-- Add files whose messages and enums have names without dots, at any depth, that are not empty.  A full name,
with any number of dots before it, is found exactly if it is the path of a declaration in a file that is the
first of its name.  What is found is the declaration of that path which was visited last, with the package and
the language level of its file.  Other texts are not found.  The messages listed are those that are registered
and no map entries, in strictly ascending order of their full names. -/
theorem lookups_find_last_visit {files : FileSet} (hnames : ∀ file ∈ files, file.WellNamed) :
    let types := (Registry.ofFiles files).types
    (∀ path, (∀ name ∈ path, IsSegment name) → ∀ count,
      let reference := String.ofList (List.replicate count '.') ++ pathText path
      ((types.message? reference).isSome = true ↔
        ∃ file, FirstOfName files file ∧ ∃ visit ∈ file.messageVisits, visit.path = path) ∧
      ((types.enum? reference).isSome = true ↔
        ∃ file, FirstOfName files file ∧ ∃ visit ∈ file.enumVisits, visit.path = path) ∧
      types.message? reference =
        (lastVisit? path (messageVisits files)).map (fun visit => ⟨pathText path, visit.entry⟩) ∧
      types.enum? reference =
        (lastVisit? path (enumVisits files)).map fun visit => ⟨pathText path, visit.declaration⟩) ∧
    (∀ reference, (types.message? reference).isSome = true ∨ (types.enum? reference).isSome = true →
      ∃ path, (∀ name ∈ path, IsSegment name) ∧
        (QualifiedName.ofReference reference).text = pathText path) ∧
    types.listedMessages.Pairwise (fun first second => first.fullName < second.fullName) ∧
    ∀ message, message ∈ types.listedMessages ↔ message.isMapEntry = false ∧
      ∃ path visit, lastVisit? path (messageVisits files) = some visit ∧
        message = ⟨pathText path, visit.entry⟩ := by
  intro types
  refine ⟨?_, fun reference => exists_path_of_isSome hnames, listedMessages_pairwise_lt types, ?_⟩
  · intro path hpath count reference
    have hmessage := message?_dots_pathText hnames hpath count
    have henum := enum?_dots_pathText hnames hpath count
    refine ⟨?_, ?_, hmessage, henum⟩
    · rw [hmessage, Option.isSome_map, lastVisit?_isSome_iff]
      exact exists_visit_iff
    · rw [henum, Option.isSome_map, lastVisit?_isSome_iff]
      exact exists_visit_iff
  · intro message
    rw [mem_listedMessages_iff, registered_iff_exists_lastVisit? hnames, and_comm]

/-- A message inside another, in a package with superfluous dots. -/
def dottedPackageFile : File where
  name := some "a.proto"
  package := some ".t..v1"
  messages := [
    { name := some "Outer"
      messages := [{ name := some "Inner" }]
      enums := [{ name := some "Mode", values := [{ name := some "OFF", number := some 0 }] }] }]

/-- The same path once more, in another file and package. -/
def plainPackageFile : File where
  name := some "b.proto"
  package := some "t.v1.Outer"
  messages := [{ name := some "Inner", fields := [{ name := some "id", number := some 1 }] }]
  dialect := some "proto3"

/-- The file of the later declaration decides, and a second file of a name does not count. -/
theorem dottedPackageFile_overwritten :
    (∀ file ∈ [dottedPackageFile, plainPackageFile, dottedPackageFile], file.WellNamed) ∧
      ((Registry.ofFiles [dottedPackageFile, plainPackageFile, dottedPackageFile]).types.message?
        "..t.v1.Outer.Inner").map (fun message =>
          (message.fullName, message.package, message.entry.fields.length, message.entry.dialect)) =
        some ("t.v1.Outer.Inner", "t.v1.Outer", 1, .proto3) := by
  have hnames : ∀ file ∈ [dottedPackageFile, plainPackageFile, dottedPackageFile], file.WellNamed := by
    have hdotted : dottedPackageFile.WellNamed := ⟨by decide +kernel, by decide +kernel⟩
    have hplain : plainPackageFile.WellNamed := ⟨by decide +kernel, by decide +kernel⟩
    simp [hdotted, hplain]
  have hpath : ∀ name ∈ ["t", "v1", "Outer", "Inner"], IsSegment name := by decide
  obtain ⟨-, -, hmessage, -⟩ := (lookups_find_last_visit hnames).1 _ hpath 2
  refine ⟨hnames, ?_⟩
  have hreference : String.ofList (List.replicate 2 '.') ++ pathText ["t", "v1", "Outer", "Inner"] =
      "..t.v1.Outer.Inner" := by
    decide +kernel
  rw [← hreference, hmessage]
  decide +kernel

end CustomResource
