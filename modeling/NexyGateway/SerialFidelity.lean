import NexyGateway.SerialMessages

/-!
# What the lift reads of a message

A message is one object with the members that the arguments ask for, if and only if the texts
that are put into it are spelled as JSON has them.
-/
namespace NexyGateway.Rs232Handler

open PyNumber PyJson PyDecoder PyRepr ThousandLib

/-! ### Accepted arguments -/

/-- What an accepted request looks like. -/
inductive Asks : Inputs → Prop
  | text {cmd : Command} (h : cmd ∉ [Command.operation, .readFile, .writeFile, .vfdRead])
    (data : String) : Asks { cmd := cmd, data := .str data }
  | operation {type : String} {k : Int} (h : PyNumber.int type = some k) (data : String) :
    Asks { cmd := .operation, operationType := .str type, data := .str data }
  | readFile {name : String} (h : name ∈ validFileNames) :
    Asks { cmd := .readFile, fileName := .str name }
  | writeFile {name : String} (h : name ∈ validFileNames) (items : List Json) :
    Asks { cmd := .writeFile, operationType := minusOne, data := .list items,
              fileName := .str name }
  | vfdRead {n k : Int} (hn : n.natAbs < 10 ^ maxStrDigits) (hk : k.natAbs < 10 ^ maxStrDigits)
    (data : String) :
    Asks { cmd := .vfdRead, data := .str data, id := .int n, interval := .int k }

section Inversion

variable {cmd : Command} {rest : List String} {i : Inputs}

theorem bareInputs_ok (h : bareInputs cmd rest = .ok (.ok i)) :
    ∃ data, i = { cmd := cmd, data := .str data } := by
  cases rest with
  | nil => exact ⟨"", (Except.ok.inj (Except.ok.inj h)).symm⟩
  | cons data rest => cases h

theorem optionalInputs_ok (h : optionalInputs cmd rest = .ok (.ok i)) :
    ∃ data, i = { cmd := cmd, data := .str data } := by
  rcases rest with - | ⟨data, - | ⟨_, _⟩⟩
  · exact ⟨"", (Except.ok.inj (Except.ok.inj h)).symm⟩
  · exact ⟨data, (Except.ok.inj (Except.ok.inj h)).symm⟩
  · cases h

theorem dataInputs_ok {valid : String → Bool} (h : dataInputs cmd valid rest = .ok (.ok i)) :
    ∃ data, i = { cmd := cmd, data := .str data } := by
  rcases rest with - | ⟨data, - | ⟨_, _⟩⟩
  · cases h
  · simp only [dataInputs] at h
    split at h
    · exact ⟨data, (Except.ok.inj (Except.ok.inj h)).symm⟩
    · cases h
  · cases h

theorem operationInputs_ok (h : operationInputs rest = .ok (.ok i)) : Asks i := by
  have hoperation : ∀ {type data : String},
      operationInputs.operation type data = .ok (.ok i) → Asks i := by
    intro type data h
    unfold operationInputs.operation at h
    split at h
    · cases h
    · rename_i k hk
      cases h
      exact .operation hk data
  rcases rest with - | ⟨type, - | ⟨data, - | ⟨_, _⟩⟩⟩
  · cases h
  · exact hoperation h
  · exact hoperation h
  · cases h

theorem readFileInputs_ok (h : readFileInputs rest = .ok (.ok i)) : Asks i := by
  rcases rest with - | ⟨name, - | ⟨_, _⟩⟩
  · cases h
  · simp only [readFileInputs] at h
    split at h
    · rename_i hname
      cases h
      exact .readFile hname
    · cases h
  · cases h

theorem writeFileInputs_ok (h : writeFileInputs rest = .ok (.ok i)) : Asks i := by
  rcases rest with - | ⟨name, - | ⟨document, - | ⟨_, _⟩⟩⟩
  · cases h
  · cases h
  · simp only [writeFileInputs] at h
    split at h
    · rename_i hname
      split at h
      · cases h
      · cases h
      · split at h
        · cases h
        · cases h
          exact .writeFile hname _
        · cases h
      · cases h
    · cases h
  · cases h

theorem vfdReadInputs_ok (h : vfdReadInputs rest = .ok (.ok i)) : Asks i := by
  rcases rest with - | ⟨id, - | ⟨data, - | ⟨interval, - | ⟨_, _⟩⟩⟩⟩
  · cases h
  · cases h
  · cases h
  · simp only [vfdReadInputs] at h
    split at h
    · rename_i n k hn hk
      split at h
      · cases h
        exact .vfdRead (int_bound hn) (int_bound hk) data
      · cases h
    · cases h
  · cases h

theorem commandInputs_ok (h : commandInputs cmd rest = .ok (.ok i)) : Asks i := by
  cases cmd with
  | operation => exact operationInputs_ok h
  | readFile => exact readFileInputs_ok h
  | writeFile => exact writeFileInputs_ok h
  | vfdRead => exact vfdReadInputs_ok h
  | version | getOpenCount | vfdClearTable =>
    obtain ⟨data, rfl⟩ := bareInputs_ok h
    exact .text (by decide) data
  | liftRef1 | liftRef2 | liftName | oilLevel =>
    obtain ⟨data, rfl⟩ := optionalInputs_ok h
    exact .text (by decide) data
  | time | logfile | childLock | floorLock | vfdId =>
    obtain ⟨data, rfl⟩ := dataInputs_ok h
    exact .text (by decide) data

theorem asks_of_validate {args : Json} (h : validateSerialInputs args = .ok (.ok i)) :
    Asks i := by
  unfold validateSerialInputs at h
  split at h
  · split at h
    · cases h
    · cases h
    · split at h
      · cases h
      · exact commandInputs_ok h
  · cases h

end Inversion

/-! ### The request -/

section Request

variable (r : Rendering) (current : Bool) (i : Inputs)

def given (key : String) : Json → Dict
  | .str s => if s = "" then [] else [(key, .str s)]
  | v => [(key, v)]

def Inputs.typeMember : Dict :=
  match i.operationType with
  | .str s => (PyNumber.int s).elim [] (fun k => [("type", .int k)])
  | _ => []

/-- Whether data goes along with the command: none if there is none to write, and no number of
log entries to a lift that is older than that. -/
def Inputs.carries : Bool :=
  match i.cmd with
  | .version | .getOpenCount | .vfdClearTable | .readFile => false
  | .operation | .liftRef1 | .liftRef2 | .liftName | .oilLevel => i.data.truthy
  | .logfile => current
  | .time | .writeFile | .childLock | .floorLock | .vfdId | .vfdRead => true

/-- The data of an operation is a document, all other data is a text. -/
def Inputs.content : Json :=
  match i.cmd, i.data with
  | .operation, .str s => (loads s).toOption.getD .null
  | _, v => .str (format r v)

/-- The members of the object that the arguments ask for. -/
def Inputs.members : Dict :=
  ("cmd", .str i.cmd.text) :: (i.typeMember ++ given "name" i.fileName ++ given "id" i.id ++
    (if i.carries current then [("data", i.content r)] else []) ++ given "interval" i.interval)

/-- The texts of the arguments are spelled as JSON has them: nothing in a quoted text ends or
escapes anything, the type is a number to the decoder too, and the data of an operation is a
document. -/
structure Inputs.Spelled : Prop where
  quoted : i.cmd ≠ .operation → i.carries current = true →
    ∀ c ∈ (format r i.data).toList, isPlain c = true
  type : ∀ s k, i.operationType = .str s → PyNumber.int s = some k → Reads s.toList (.int k)
  document : ∀ s, i.cmd = .operation → i.data = .str s → s ≠ "" → ∃ v, loads s = .ok v

end Request

/-! ### The message -/

section Message

variable {r : Rendering} {lib : Lib} {current : Bool} {i : Inputs}

def cmdEntry (cmd : Command) : Entry :=
  .quoted 0 ['c', 'm', 'd'] cmd.text.toList (by decide)

def typeEntry (type : String) (k : Int) : Entry :=
  .number 0 ['t', 'y', 'p', 'e'] type.toList k (by decide)

def dataEntry (gap : Nat) (data : String) : Entry :=
  .quoted gap ['d', 'a', 't', 'a'] data.toList (by decide)

def documentEntry (document : String) (v : Json) : Entry :=
  .document 0 ['d', 'a', 't', 'a'] document.toList v (by decide)

def nameEntry (name : String) : Entry :=
  .quoted 1 ['n', 'a', 'm', 'e'] name.toList (by decide)

def idEntry (n : Int) : Entry := .number 1 ['i', 'd'] (toString n).toList n (by decide)

def intervalEntry (k : Int) : Entry :=
  .number 1 ['i', 'n', 't', 'e', 'r', 'v', 'a', 'l'] (toString k).toList k (by decide)

theorem cmd_plain (cmd : Command) : ∀ c ∈ cmd.text.toList, isPlain c = true := by
  cases cmd
  all_goals exact List.all_eq_true.mp (by decide)

theorem fileName_plain {name : String} (h : name ∈ validFileNames) :
    ∀ c ∈ name.toList, isPlain c = true := by
  have hall : validFileNames.all (fun name => name.toList.all isPlain) = true := by decide
  exact List.all_eq_true.mp (List.all_eq_true.mp hall name h)

theorem field_cmd (cmd : Command) : (cmdEntry cmd).field = ("cmd", .str cmd.text) := by
  simp [cmdEntry, Entry.field, Entry.quoted]

theorem field_type (type : String) (k : Int) : (typeEntry type k).field = ("type", .int k) := by
  simp [typeEntry, Entry.field, Entry.number]

theorem field_data (gap : Nat) (data : String) :
    (dataEntry gap data).field = ("data", .str data) := by
  simp [dataEntry, Entry.field, Entry.quoted]

theorem field_document (document : String) (v : Json) :
    (documentEntry document v).field = ("data", v) := by
  simp [documentEntry, Entry.field, Entry.document]

theorem field_name (name : String) : (nameEntry name).field = ("name", .str name) := by
  simp [nameEntry, Entry.field, Entry.quoted]

theorem field_id (n : Int) : (idEntry n).field = ("id", .int n) := by
  simp [idEntry, Entry.field, Entry.number]

theorem field_interval (k : Int) : (intervalEntry k).field = ("interval", .int k) := by
  simp [intervalEntry, Entry.field, Entry.number]

/-- The text of a message is made of these entries, and asks for these members. -/
structure Laid (r : Rendering) (current : Bool) (i : Inputs) (text : String)
    (es : List Entry) : Prop where
  chars : text.toList = objectText (cmdEntry i.cmd) es
  exacts : Exacts es
  fields : ("cmd", .str i.cmd.text) :: es.map Entry.field = i.members r current
  clean : (∀ f ∈ es, f.clean) ↔ i.Spelled r current

theorem Laid.fields_iff {text : String} {es : List Entry} (h : Laid r current i text es) :
    Fields text.toList (i.members r current) ↔ i.Spelled r current := by
  have hexacts : Exacts (cmdEntry i.cmd :: es) := ⟨exact_quoted es, h.exacts⟩
  have hclean : (cmdEntry i.cmd).clean := cmd_plain i.cmd
  rw [h.chars, ← h.fields, ← field_cmd, ← List.map_cons, fields_objectText hexacts,
    List.forall_mem_cons, ← h.clean]
  exact and_iff_right hclean

/-- A request without an operation type only has its data to spell. -/
theorem spelled_iff (hcmd : i.cmd ≠ .operation)
    (htype : ∀ s k, i.operationType = .str s → PyNumber.int s ≠ some k) :
    i.Spelled r current ↔
      (i.carries current = true → ∀ c ∈ (format r i.data).toList, isPlain c = true) := by
  constructor
  · exact fun h => h.quoted hcmd
  · intro h
    refine ⟨fun _ => h, fun s k hs hk => absurd hk (htype s k hs), fun s hop => absurd hop hcmd⟩

theorem int_empty : PyNumber.int "" = none := by decide

theorem empty_type {s : String} {k : Int} (h : Json.str "" = .str s) : PyNumber.int s ≠ some k := by
  cases h
  rw [int_empty]
  simp

/-- The text of a message with nothing but the command. -/
theorem chars_bare (cmd : Command) :
    ("\x7b\"cmd\":\"" ++ cmd.text ++ "\"\x7d").toList = objectText (cmdEntry cmd) [] := by
  simp [objectText, Entry.chars, chain, cmdEntry, Entry.quoted]

theorem chars_data (cmd : Command) (data : String) :
    ("\x7b\"cmd\":\"" ++ cmd.text ++ "\",\"data\":\"" ++ data ++ "\"\x7d").toList =
      objectText (cmdEntry cmd) [dataEntry 0 data] := by
  simp [objectText, Entry.chars, chain, cmdEntry, dataEntry, Entry.quoted]

theorem chars_spacedData (cmd : Command) (data : String) :
    ("\x7b\"cmd\":\"" ++ cmd.text ++ "\", \"data\":\"" ++ data ++ "\"\x7d").toList =
      objectText (cmdEntry cmd) [dataEntry 1 data] := by
  simp [objectText, Entry.chars, chain, cmdEntry, dataEntry, Entry.quoted]

theorem exacts_data (gap : Nat) (data : String) : Exacts [dataEntry gap data] :=
  ⟨exact_quoted [], trivial⟩

section Text

variable {cmd : Command} {data : String}

/-- A message without data. -/
theorem laid_without (hcmd : cmd ≠ .operation)
    (hcarries : ({ cmd := cmd, data := .str data } : Inputs).carries current = false) :
    Laid r current { cmd := cmd, data := .str data } ("\x7b\"cmd\":\"" ++ cmd.text ++ "\"\x7d")
      [] := by
  refine ⟨chars_bare cmd, trivial, ?_, ?_⟩
  · simp [Inputs.members, hcarries, Inputs.typeMember, given, int_empty]
  · rw [spelled_iff hcmd (fun s k hs => empty_type hs), hcarries]
    simp

/-- A message with a text for its data. -/
theorem laid_data {gap : Nat} {text : String} (hcmd : cmd ≠ .operation)
    (hcarries : ({ cmd := cmd, data := .str data } : Inputs).carries current = true)
    (hchars : text.toList = objectText (cmdEntry cmd) [dataEntry gap data]) :
    Laid r current { cmd := cmd, data := .str data } text [dataEntry gap data] := by
  have hcontent : ({ cmd := cmd, data := .str data } : Inputs).content r = .str data := by
    cases cmd with
    | operation => exact absurd rfl hcmd
    | _ => rfl
  refine ⟨hchars, exacts_data gap data, ?_, ?_⟩
  · simp [Inputs.members, hcarries, hcontent, Inputs.typeMember, given, int_empty, field_data]
  · rw [spelled_iff hcmd (fun s k hs => empty_type hs), hcarries, List.forall_mem_singleton]
    exact ⟨fun hclean _ => hclean, fun hspelled => hspelled rfl⟩

end Text

/-- The message is put together from some entries. -/
def Lays (r : Rendering) (lib : Lib) (current : Bool) (i : Inputs) : Prop :=
  ∃ text data es, message r lib i = .ok (text, data) ∧ Laid r current i text es

theorem lays_text {cmd : Command} (h : cmd ∉ [Command.operation, .readFile, .writeFile, .vfdRead])
    (data : String) (hcurrent : cmd = .logfile →
      checkIfAboveOrEqualToVersions logfileLengthVersionLimits lib = .ok current) :
    Lays r lib current { cmd := cmd, data := .str data } := by
  cases cmd with
  | operation | readFile | writeFile | vfdRead => exact absurd (by decide) h
  | version | getOpenCount | vfdClearTable =>
    exact ⟨_, _, _, rfl, laid_without (by decide) rfl⟩
  | liftRef1 | liftRef2 | liftName | oilLevel =>
    by_cases hempty : data = ""
    · subst hempty
      exact ⟨_, _, _, rfl, laid_without (by decide) rfl⟩
    · have htruthy : (Json.str data).truthy = true := decide_eq_true hempty
      exact ⟨_, _, _, if_pos htruthy, laid_data (by decide) htruthy (chars_data _ data)⟩
  | time => exact ⟨_, _, _, rfl, laid_data (by decide) rfl (chars_data _ data)⟩
  | logfile =>
    have hmessage : message r lib { cmd := .logfile, data := .str data } =
        logfileMessage r lib { cmd := .logfile, data := .str data } := rfl
    rw [Lays, hmessage, logfileMessage, hcurrent rfl]
    cases current with
    | false => exact ⟨_, _, _, rfl, laid_without (by decide) rfl⟩
    | true => exact ⟨_, _, _, rfl, laid_data (by decide) rfl (chars_data _ data)⟩
  | childLock | floorLock | vfdId =>
    exact ⟨_, _, _, rfl, laid_data (by decide) rfl (chars_spacedData _ data)⟩

/-- An operation has the text of its type, and the text of a document if there is one. -/
theorem lays_operation {type : String} {k : Int} (htype : PyNumber.int type = some k)
    (data : String) (hdocument : data ≠ "" → ∃ v, loads data = .ok v) :
    Lays r lib current { cmd := .operation, operationType := .str type, data := .str data } := by
  have hexact : ∀ es, (typeEntry type k).Exact (chain es) :=
    exact_number (int_separator htype)
  have hmember : Inputs.typeMember
      { cmd := .operation, operationType := .str type, data := .str data } =
        [("type", .int k)] := by
    simp [Inputs.typeMember, htype]
  have hspelled : ∀ {i : Inputs}, i.cmd = .operation → i.operationType = .str type →
      (∀ s, i.data = .str s → s ≠ "" → ∃ v, loads s = .ok v) →
      (Reads type.toList (.int k) ↔ i.Spelled r current) := by
    intro i hcmd hoperation hdata
    constructor
    · intro hreads
      refine ⟨fun hne => absurd hcmd hne, ?_, fun s _ => hdata s⟩
      intro s n hs hn
      rw [hoperation] at hs
      cases hs
      rw [htype] at hn
      cases hn
      exact hreads
    · exact fun h => h.type type k hoperation htype
  by_cases hempty : data = ""
  · subst hempty
    refine ⟨_, _, [typeEntry type k], rfl, ?_, ⟨hexact [], trivial⟩, ?_, ?_⟩
    · simp [objectText, Entry.chars, chain, cmdEntry, typeEntry, Entry.quoted, Entry.number, format]
    · simp [Inputs.members, Inputs.carries, Json.truthy, hmember, given, field_type]
    · rw [List.forall_mem_singleton]
      exact hspelled rfl rfl (fun s hs hne => absurd (Json.str.inj hs).symm hne)
  · obtain ⟨v, hv⟩ := hdocument hempty
    have htruthy : (Json.str data).truthy = true := decide_eq_true hempty
    have hreads : Reads data.toList v := loads_iff.mp hv
    refine ⟨_, _, [typeEntry type k, documentEntry data v], if_pos htruthy, ?_,
      ⟨hexact _, exact_document hreads [], trivial⟩, ?_, ?_⟩
    · simp [objectText, Entry.chars, chain, cmdEntry, typeEntry, documentEntry, Entry.quoted,
        Entry.number, Entry.document, format]
    · simp [Inputs.members, Inputs.carries, htruthy, Inputs.content, hv, Except.toOption, hmember,
        given, field_type, field_document]
    · rw [List.forall_mem_cons, List.forall_mem_singleton, ← hspelled rfl rfl
        (fun s (hs : Json.str data = .str s) _ => ⟨v, Json.str.inj hs ▸ hv⟩)]
      exact and_iff_left trivial

theorem validFileNames_ne {name : String} (h : name ∈ validFileNames) : name ≠ "" := by
  revert name
  decide

theorem lays_readFile {name : String} (h : name ∈ validFileNames) :
    Lays r lib current { cmd := .readFile, fileName := .str name } := by
  refine ⟨_, _, [nameEntry name], rfl, ?_, ⟨exact_quoted [], trivial⟩, ?_, ?_⟩
  · simp [objectText, Entry.chars, chain, cmdEntry, nameEntry, Entry.quoted, format]
  · simp [Inputs.members, Inputs.carries, Inputs.typeMember, int_empty, given,
      validFileNames_ne h, field_name]
  · have hcmd : Command.readFile ≠ .operation := by decide
    rw [spelled_iff hcmd (fun s k hs => empty_type hs), List.forall_mem_singleton]
    exact ⟨fun _ hno => Bool.noConfusion hno, fun _ => fileName_plain h⟩

/-- The list of a file is written as Python writes it. -/
theorem lays_writeFile {name : String} (h : name ∈ validFileNames) (items : List Json) :
    Lays r lib current { cmd := .writeFile, operationType := minusOne, data := .list items,
                         fileName := .str name } := by
  refine ⟨_, _, [nameEntry name, dataEntry 1 (PyRepr.repr r (.list items))], rfl, ?_,
    ⟨exact_quoted _, exacts_data 1 _⟩, ?_, ?_⟩
  · simp [objectText, Entry.chars, chain, cmdEntry, nameEntry, dataEntry, Entry.quoted, format]
  · simp [Inputs.members, Inputs.carries, Inputs.typeMember, Inputs.content, minusOne, given,
      validFileNames_ne h, field_name, field_data, format]
  · have hcmd : Command.writeFile ≠ .operation := by decide
    rw [spelled_iff hcmd (fun s k hs => Json.noConfusion hs), List.forall_mem_cons,
      List.forall_mem_singleton]
    exact ⟨fun hclean _ => hclean.2, fun hspelled => ⟨fileName_plain h, hspelled rfl⟩⟩

/-- The numbers of a request for the converter are written by Python. -/
theorem lays_vfdRead {n k : Int} (hn : n.natAbs < 10 ^ maxStrDigits)
    (hk : k.natAbs < 10 ^ maxStrDigits) (data : String) :
    Lays r lib current { cmd := .vfdRead, data := .str data, id := .int n, interval := .int k } := by
  refine ⟨_, _, [idEntry n, dataEntry 1 data, intervalEntry k], rfl, ?_,
    ⟨exact_number (toString_separator n) _, exact_quoted _,
      exact_number (toString_separator k) [], trivial⟩, ?_, ?_⟩
  · simp [objectText, Entry.chars, chain, cmdEntry, idEntry, dataEntry, intervalEntry, Entry.quoted,
      Entry.number, format, PyRepr.repr]
  · simp [Inputs.members, Inputs.carries, Inputs.typeMember, Inputs.content, int_empty, given,
      field_id, field_data, field_interval, format]
  · have hcmd : Command.vfdRead ≠ .operation := by decide
    rw [spelled_iff hcmd (fun s k hs => empty_type hs), List.forall_mem_cons,
      List.forall_mem_cons, List.forall_mem_singleton]
    exact ⟨fun hclean _ => hclean.2.1,
      fun hspelled => ⟨reads_toString hn, hspelled rfl, reads_toString hk⟩⟩

theorem lays (h : Asks i) (hcurrent : i.cmd = .logfile →
      checkIfAboveOrEqualToVersions logfileLengthVersionLimits lib = .ok current)
    (hdocument : ∀ s, i.cmd = .operation → i.data = .str s → s ≠ "" → ∃ v, loads s = .ok v) :
    Lays r lib current i := by
  cases h with
  | text h data => exact lays_text h data hcurrent
  | operation h data => exact lays_operation h data (hdocument data rfl rfl)
  | readFile h => exact lays_readFile h
  | writeFile h items => exact lays_writeFile h items
  | vfdRead hn hk data => exact lays_vfdRead hn hk data

end Message

section Faithful

variable {r : Rendering} {lib : Lib} {args : Json} {i : Inputs}

theorem given_keys (key : String) (v : Json) : ((given key v).map Prod.fst).Sublist [key] := by
  unfold given
  split
  · split
    · exact List.nil_sublist _
    · exact List.Sublist.refl _
  · exact List.Sublist.refl _

theorem typeMember_keys (i : Inputs) : (i.typeMember.map Prod.fst).Sublist ["type"] := by
  unfold Inputs.typeMember
  split
  · cases PyNumber.int _ with
    | none => exact List.nil_sublist _
    | some k => exact List.Sublist.refl _
  · exact List.nil_sublist _

/-- The members have different keys. -/
theorem members_nodup (r : Rendering) (current : Bool) (i : Inputs) :
    ((i.members r current).map Prod.fst).Nodup := by
  have hdata : ((if i.carries current then [("data", i.content r)] else []).map
      Prod.fst).Sublist ["data"] := by
    split
    · exact List.Sublist.refl _
    · exact List.nil_sublist _
  have hkeys : ((i.members r current).map Prod.fst).Sublist
      ("cmd" :: (["type"] ++ ["name"] ++ ["id"] ++ ["data"] ++ ["interval"])) := by
    simp only [Inputs.members, List.map_cons, List.map_append]
    exact .cons_cons _ (((((typeMember_keys i).append (given_keys ..)).append (given_keys ..)).append
      hdata).append (given_keys ..))
  exact hkeys.nodup (by decide)

/-- Whether the lift takes the number of log entries. -/
def takesLogLength (lib : Lib) : Bool :=
  (checkIfAboveOrEqualToVersions logfileLengthVersionLimits lib).toOption.getD false

/-- A message goes out for accepted arguments unless the versions of the lift are no numbers. -/
def Sends (r : Rendering) (lib : Lib) (args : Json) (i : Inputs) (text : String) : Prop :=
  ∃ data, writeSerial r lib true args =
    ⟨some text.toUTF8, .ok ⟨some i.cmd, i.operationType, data, .NO_ERR⟩⟩

theorem writeSerial_accepted (h : validateSerialInputs args = .ok (.ok i)) :
    writeSerial r lib true args =
      match message r lib i with
      | .error e => ⟨none, .error e⟩
      | .ok (msg, data) =>
        ⟨some msg.toUTF8, .ok ⟨some i.cmd, i.operationType, data, .NO_ERR⟩⟩ := by
  simp only [writeSerial, h]
  rfl

/-- The message has exactly the members that are asked for if and only if the texts are spelled
as JSON has them. -/
theorem writeSerial_fields_iff (h : validateSerialInputs args = .ok (.ok i))
    (hdocument : ∀ s, i.cmd = .operation → i.data = .str s → s ≠ "" → ∃ v, loads s = .ok v)
    (hversions : i.cmd = .logfile → ∃ current,
      checkIfAboveOrEqualToVersions logfileLengthVersionLimits lib = .ok current) :
    ∃ text, Sends r lib args i text ∧
      (Fields text.toList (i.members r (takesLogLength lib)) ↔
        i.Spelled r (takesLogLength lib)) := by
  have hcurrent : i.cmd = .logfile →
      checkIfAboveOrEqualToVersions logfileLengthVersionLimits lib = .ok (takesLogLength lib) := by
    intro hlog
    obtain ⟨current, hcurrent⟩ := hversions hlog
    rw [takesLogLength, hcurrent]
    rfl
  obtain ⟨text, data, es, hmessage, hlaid⟩ := lays (asks_of_validate h) hcurrent hdocument
  refine ⟨text, ⟨data, ?_⟩, hlaid.fields_iff⟩
  rw [writeSerial_accepted h, hmessage]

theorem message_raises (hlog : i.cmd = .logfile) {e : PyError}
    (he : checkIfAboveOrEqualToVersions logfileLengthVersionLimits lib = .error e) :
    message r lib i = .error e := by
  simp only [message, hlog, logfileMessage, he, Except.map]

/-- What is sent for texts that are spelled as JSON has them is one object, with the members that
the arguments ask for and no others. -/
theorem writeSerial_faithful (h : validateSerialInputs args = .ok (.ok i))
    (hspelled : i.Spelled r (takesLogLength lib)) :
    (∃ e, i.cmd = .logfile ∧
      checkIfAboveOrEqualToVersions logfileLengthVersionLimits lib = .error e ∧
      writeSerial r lib true args = ⟨none, .error e⟩) ∨
    ∃ text, Sends r lib args i text ∧
      Fields text.toList (i.members r (takesLogLength lib)) ∧
      loads text = .ok (.dict (i.members r (takesLogLength lib))) := by
  by_cases hraise : i.cmd = .logfile ∧ ∃ e,
      checkIfAboveOrEqualToVersions logfileLengthVersionLimits lib = .error e
  · obtain ⟨hlog, e, he⟩ := hraise
    refine .inl ⟨e, hlog, he, ?_⟩
    rw [writeSerial_accepted h, message_raises hlog he]
  · have hversions : i.cmd = .logfile → ∃ current,
        checkIfAboveOrEqualToVersions logfileLengthVersionLimits lib = .ok current := by
      intro hlog
      cases hcheck : checkIfAboveOrEqualToVersions logfileLengthVersionLimits lib with
      | error e => exact absurd ⟨hlog, e, hcheck⟩ hraise
      | ok current => exact ⟨current, rfl⟩
    obtain ⟨text, hsends, hiff⟩ := writeSerial_fields_iff (r := r) h hspelled.document hversions
    have hfields := hiff.mpr hspelled
    refine .inr ⟨text, hsends, hfields, ?_⟩
    rw [loads_of_fields hfields, ofPairs_nodup (members_nodup ..)]

/-- An article number for the lift. -/
def articleNumber (number : String) : Json := .list [.str "liftRef1", .str number]

theorem articleNumber_sent : ∃ text,
    Sends ⟨fun _ => "0.0", fun _ => true⟩ .fresh (articleNumber "AR 10")
      { cmd := .liftRef1, data := .str "AR 10" } text ∧
    Fields text.toList [("cmd", .str "liftRef1"), ("data", .str "AR 10")] ∧
    loads text = .ok (.dict [("cmd", .str "liftRef1"), ("data", .str "AR 10")]) := by
  have hspelled : ({ cmd := .liftRef1, data := .str "AR 10" } : Inputs).Spelled
      ⟨fun _ => "0.0", fun _ => true⟩ (takesLogLength .fresh) :=
    ⟨fun _ _ => List.all_eq_true.mp (by decide : "AR 10".toList.all isPlain = true),
      fun s k hs hk => absurd hk (empty_type hs), fun s hcmd => nomatch hcmd⟩
  have haccepted : validateSerialInputs (articleNumber "AR 10") =
      .ok (.ok { cmd := .liftRef1, data := .str "AR 10" }) := rfl
  rcases writeSerial_faithful haccepted hspelled with ⟨e, hlog, -⟩ | hsent
  · cases hlog
  · exact hsent

theorem writeGenericText_bytes {package : String} (h : package ∈ genericTexts) (available : Bool)
    (newText : String) (reads : List FrameRead) (saved : Saved) :
    (writeGenericText r lib available package newText reads saved).bytes =
      (writeSerial r lib available (.list [.str package, .str newText])).bytes := by
  unfold writeGenericText
  rw [if_neg (not_not.mpr h)]
  simp only
  split
  · rfl
  split
  · rfl
  split
  · rfl
  split
  · rfl
  · rfl

theorem message_text {cmd : Command} {data : String} (htruthy : (Json.str data).truthy = true)
    (hcmd : cmd.text ∈ genericTexts) : message r lib { cmd := cmd, data := .str data } =
      .ok ("\x7b\"cmd\":\"" ++ cmd.text ++ "\",\"data\":\"" ++ data ++ "\"\x7d", .str data) := by
  cases cmd with
  | liftRef1 | liftRef2 | liftName => exact if_pos htruthy
  | _ => exact absurd hcmd (by decide)

/-- A generic text is written as it is asked for if and only if it is spelled as JSON has it. -/
theorem writeGenericText_fields_iff {cmd : Command} (hcmd : cmd.text ∈ genericTexts)
    {newText : String} (hne : newText ≠ "") (reads : List FrameRead) (saved : Saved) :
    ∃ text : String,
      (writeGenericText r lib true cmd.text newText reads saved).bytes = some text.toUTF8 ∧
      (Fields text.toList [("cmd", .str cmd.text), ("data", .str newText)] ↔
        ∀ c ∈ newText.toList, isPlain c = true) := by
  have htruthy : (Json.str newText).truthy = true := decide_eq_true hne
  have hmessage : (writeSerial r lib true (.list [.str cmd.text, .str newText])).bytes =
      some ("\x7b\"cmd\":\"" ++ cmd.text ++ "\",\"data\":\"" ++ newText ++ "\"\x7d").toUTF8 := by
    cases cmd with
    | liftRef1 | liftRef2 | liftName =>
      rw [writeSerial_accepted rfl, message_text htruthy (by decide)]
    | _ => exact absurd hcmd (by decide)
  have hoperation : cmd ≠ .operation := by
    rintro rfl
    exact absurd hcmd (by decide)
  have hcarries : ({ cmd := cmd, data := .str newText } : Inputs).carries true = true := by
    cases cmd with
    | liftRef1 | liftRef2 | liftName => exact htruthy
    | _ => exact absurd hcmd (by decide)
  have hlaid := laid_data (r := r) hoperation hcarries (chars_data cmd newText)
  have hiff := hlaid.fields_iff
  rw [← hlaid.fields, ← hlaid.clean, List.map_singleton, field_data,
    List.forall_mem_singleton] at hiff
  exact ⟨_, (writeGenericText_bytes hcmd true newText reads saved).trans hmessage, hiff⟩

/-- The decoded message has the value under the key. -/
def Has (text key : String) (v : Json) : Prop :=
  ∃ d, loads text = .ok (.dict d) ∧ d.lookup key = some v

theorem not_has {text key : String} {v : Json} {d : Dict} (h : loads text = .ok (.dict d))
    (hkey : d.lookup key ≠ some v) : ¬ Has text key v := by
  rintro ⟨d', hd', hlookup⟩
  rw [h] at hd'
  cases hd'
  exact hkey hlookup

/-- A text that closes its string and goes on with a command. -/
def injection : String := "A\",\"cmd\":\"liftName"

theorem injection_decoded {text : String}
    (h : text.toList = objectText (cmdEntry .liftRef1) [dataEntry 0 injection]) :
    loads text = .ok (.dict [("cmd", .str "liftName"), ("data", .str "A")]) := by
  have hchars : objectText (cmdEntry .liftRef1) [dataEntry 0 injection] =
      objectText (cmdEntry .liftRef1) [dataEntry 0 "A", cmdEntry .liftName] := by
    simp [objectText, Entry.chars, chain, cmdEntry, dataEntry, Entry.quoted, injection, Command.text]
  have hfields : Fields text.toList ([cmdEntry .liftRef1, dataEntry 0 "A", cmdEntry .liftName].map
      Entry.field) := by
    have hexacts : Exacts [cmdEntry .liftRef1, dataEntry 0 "A", cmdEntry .liftName] :=
      ⟨exact_quoted _, exact_quoted _, exact_quoted _, trivial⟩
    have hA : (dataEntry 0 "A").clean := List.all_eq_true.mp (by decide : "A".toList.all isPlain = true)
    rw [h, hchars, fields_objectText hexacts, List.forall_mem_cons, List.forall_mem_cons,
      List.forall_mem_singleton]
    exact ⟨cmd_plain .liftRef1, hA, cmd_plain .liftName⟩
  rw [loads_of_fields hfields]
  rfl

/-- A number of log entries and an empty text are left out, and a text can name another command. -/
theorem message_unfaithful :
    (∃ text, Sends ⟨fun _ => "0.0", fun _ => true⟩ .fresh (.list [.str "logfile", .str "5"])
      { cmd := .logfile, data := .str "5" } text ∧ ¬ Has text "data" (.str "5")) ∧
    (∃ text, Sends ⟨fun _ => "0.0", fun _ => true⟩ .fresh (articleNumber "")
      { cmd := .liftRef1, data := .str "" } text ∧ ¬ Has text "data" (.str "")) ∧
    ∃ text, Sends ⟨fun _ => "0.0", fun _ => true⟩ .fresh (articleNumber injection)
      { cmd := .liftRef1, data := .str injection } text ∧ ¬ Has text "cmd" (.str "liftRef1") := by
  have hbare : ∀ cmd : Command, loads ("\x7b\"cmd\":\"" ++ cmd.text ++ "\"\x7d") =
      .ok (.dict [("cmd", .str cmd.text)]) := by
    intro cmd
    have hexacts : Exacts [cmdEntry cmd] := ⟨exact_quoted _, trivial⟩
    have hfields : Fields ("\x7b\"cmd\":\"" ++ cmd.text ++ "\"\x7d").toList
        ([cmdEntry cmd].map Entry.field) := by
      rw [chars_bare, fields_objectText hexacts, List.forall_mem_singleton]
      exact cmd_plain cmd
    rw [loads_of_fields hfields, List.map_singleton, field_cmd]
    rfl
  refine ⟨⟨_, ⟨_, rfl⟩, not_has (hbare .logfile) ?_⟩, ⟨_, ⟨_, rfl⟩, not_has (hbare .liftRef1) ?_⟩,
    ⟨_, ⟨_, rfl⟩, not_has (injection_decoded (chars_data .liftRef1 injection)) ?_⟩⟩
  · simp [List.lookup_cons]
  · simp [List.lookup_cons]
  · simp

end Faithful

end NexyGateway.Rs232Handler
