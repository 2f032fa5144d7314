import NexyGateway.TracePasses
import NexyGateway.PosixPath

/-!
# Files of trace logs

The lift names the file that its log is saved to. `_save_log` takes the name apart again and puts
the version of the LCM and the time into it.
-/
namespace NexyGateway.TraceLogs

open PosixPath

/-- The fields of `datetime.now()` that the name shows. -/
structure Now where
  year : Nat
  month : Nat
  day : Nat
  hour : Nat
  minute : Nat
  second : Nat

def padded (width n : Nat) : Text :=
  List.replicate (width - (Nat.toDigits 10 n).length) '0' ++ Nat.toDigits 10 n

/-- `strftime("%Y%m%d_%H%M%S")` -/
def Now.timestamp (t : Now) : Text :=
  padded 4 t.year ++ padded 2 t.month ++ padded 2 t.day ++ '_' :: padded 2 t.hour ++
    padded 2 t.minute ++ padded 2 t.second

/-- The three low bytes of the version, each shifted down and masked with `0xFF`. -/
def versionText (version : Int) : Text :=
  Nat.toDigits 10 ((version >>> (16 : Nat)) % 256).toNat ++ '.' ::
    Nat.toDigits 10 ((version >>> (8 : Nat)) % 256).toNat ++ '.' ::
    Nat.toDigits 10 (version % 256).toNat

/-- The outcome of `read_parameter` for the version; a value that is no integer is `none`. -/
inductive VersionRead where
  | raises
  | read (version : Option Int) (errCode : MbCode)

/-- What `_save_log` meets: the working directory, the version, the time and the disk. -/
structure Host where
  cwd : Text
  cwdAbsolute : isAbsolute cwd = true
  version : VersionRead
  now : Now
  makedirsFails : Bool
  openFails : Bool
  writeFails : Bool

def VersionRead.text : VersionRead → Text
  | .read (some version) .NO_ERR => versionText version
  | _ => []

/-- The result of `_save_log`, and the path that it has opened for writing. -/
structure Saved where
  ok : Bool
  fname : Text
  opened : Option Text

def saveLog (host : Host) (fnameFullpath : Text) : Saved :=
  let fnameDirs := abspath host.cwd (dirname fnameFullpath)
  let fnameRet := basename fnameFullpath
  match host.version with
  | .raises => ⟨false, fnameRet, none⟩
  | .read _ _ =>
    match fnameRet.splitOn '.' with
    | stem :: extension :: _ =>
      let fnameRet := stem ++ '_' :: 'v' :: host.version.text ++ '_' :: host.now.timestamp ++
        '.' :: extension
      if host.makedirsFails || host.openFails then ⟨false, fnameRet, none⟩
      else ⟨!host.writeFails, fnameRet, some (join fnameDirs fnameRet)⟩
    | _ => ⟨false, fnameRet, none⟩

/-- What is written lies directly in the directory and has the extension of a trace log. -/
structure InPlace (host : Host) (storagePath : Text) (s : Saved) : Prop where
  opened : ∀ path, s.opened = some path → ∃ stem, location host.cwd path =
    location host.cwd storagePath ++ [stem ++ '_' :: 'v' :: host.version.text ++
      '_' :: host.now.timestamp ++ ".sw_traces".toList]
  reported : s.opened = none → s.ok = false

/-- Nothing is opened, whatever the name. -/
def Host.Refuses (host : Host) : Prop :=
  host.version = .raises ∨ host.makedirsFails = true ∨ host.openFails = true

/-- From the directory of the logs the folder part of the name leads back to it, and there is no
dot in front of the extension. -/
def KeepsName (cwd storagePath name : Text) : Prop :=
  (if isAbsolute name then place (folder name)
    else walk (location cwd storagePath) ((folder name).splitOn '/')) = location cwd storagePath ∧
  ∃ stem, basename name = stem ++ ".sw_traces".toList ∧ '.' ∉ stem

/-- The name that stands in the first record, up to the end of the extension. -/
def FileName (data : Option Bytes) (name : String) : Prop :=
  ∃ bytes idx, data = some bytes ∧
    find needle ((bytes.drop headerSize).take filenameSize) = some idx ∧
    decodeUtf8 (((bytes.drop headerSize).take filenameSize).take (idx + needle.length)) = some name

/-! ### The name -/

section Utf8

/-- The bytes of a text in UTF-8. -/
def utf8Bytes (l : List Char) : Bytes := l.flatMap String.utf8EncodeChar

theorem decodeUtf8_some {data : Bytes} {name : String} (h : decodeUtf8 data = some name) :
    utf8Bytes name.toList = data := by
  unfold decodeUtf8 String.fromUTF8? at h
  split at h
  · cases h
    have hbytes :=
      String.toByteArray_ofList (l := (String.fromUTF8 ⟨data.toArray⟩ (by assumption)).toList)
    rw [String.ofList_toList] at hbytes
    have harray := congrArg (fun b => b.data.toList) hbytes
    simpa [utf8Bytes, List.utf8Encode, String.fromUTF8] using harray.symm
  · cases h

theorem utf8Bytes_append (l l' : List Char) :
    utf8Bytes (l ++ l') = utf8Bytes l ++ utf8Bytes l' := List.flatMap_append

theorem utf8Bytes_snoc {l : List Char} {front : Bytes} {b : UInt8} (hb : b.IsUTF8FirstByte)
    (h : utf8Bytes l = front ++ [b]) :
    ∃ l' c, l = l' ++ [c] ∧ utf8Bytes l' = front ∧ String.utf8EncodeChar c = [b] := by
  rcases List.eq_nil_or_concat l with rfl | ⟨l', c, rfl⟩
  · exact absurd (congrArg List.length h) (by simp [utf8Bytes])
  · rw [List.concat_eq_append, utf8Bytes_append] at h
    have hchar : utf8Bytes [c] = String.utf8EncodeChar c := by simp [utf8Bytes]
    rw [hchar] at h
    rcases List.eq_nil_or_concat (String.utf8EncodeChar c) with hc | ⟨init, x, hc⟩
    · exact absurd hc String.utf8EncodeChar_ne_nil
    · rw [hc, List.concat_eq_append, ← List.append_assoc] at h
      obtain ⟨hfront, hx⟩ := List.append_inj' h rfl
      have hbound : init.length < (String.utf8EncodeChar c).length := by simp [hc]
      have hlast : (String.utf8EncodeChar c)[init.length] = b := by
        simp [hc, List.singleton_inj.mp hx]
      have hinit : init.length = 0 := by
        rw [← hlast, UInt8.isUTF8FirstByte_getElem_utf8EncodeChar] at hb
        exact hb
      have hnil := List.length_eq_zero_iff.mp hinit
      subst hnil
      refine ⟨l', c, List.concat_eq_append .., by simpa using hfront, ?_⟩
      rw [hc, List.singleton_inj.mp hx]
      rfl

/-- A text whose characters are single bytes is found again at the end of the bytes. -/
theorem utf8Bytes_suffix {s : List Char}
    (hs : ∀ c ∈ s, ∃ b : UInt8, b.IsUTF8FirstByte ∧ String.utf8EncodeChar c = [b])
    {l : List Char} {front : Bytes} (h : utf8Bytes l = front ++ utf8Bytes s) :
    ∃ l', l = l' ++ s ∧ utf8Bytes l' = front := by
  induction s using List.reverseRecOn generalizing l with
  | nil => exact ⟨l, by simp, by simpa [utf8Bytes] using h⟩
  | append_singleton s c ih =>
    obtain ⟨b, hb, hc⟩ := hs c (by simp)
    have hchar : utf8Bytes [c] = [b] := by simp [utf8Bytes, hc]
    rw [utf8Bytes_append, hchar, ← List.append_assoc] at h
    obtain ⟨l', c', rfl, hfront, hc'⟩ := utf8Bytes_snoc hb h
    have hsame : c' = c := by
      have hone : (String.ofList [c']).toByteArray = (String.ofList [c]).toByteArray := by
        rw [String.toByteArray_ofList, String.toByteArray_ofList, List.utf8Encode_singleton,
          List.utf8Encode_singleton, hc, hc']
      simpa using congrArg String.toList (String.toByteArray_inj.mp hone)
    obtain ⟨l'', rfl, hl⟩ := ih (fun d hd => hs d (by simp [hd])) hfront
    exact ⟨l'', by rw [hsame, List.append_assoc], hl⟩

end Utf8

theorem find_first {sub data : Bytes} {idx : Nat} (h : find sub data = some idx)
    {a b : Bytes} (hdata : data = a ++ sub ++ b) : idx ≤ a.length := by
  induction data generalizing idx a with
  | nil =>
    simp only [find] at h
    split at h
    · cases h
      exact Nat.zero_le _
    · cases h
  | cons x rest ih =>
    simp only [find] at h
    split at h
    · cases h
      exact Nat.zero_le _
    · next hsub =>
      obtain ⟨i, hi, rfl⟩ := Option.map_eq_some_iff.mp h
      cases a with
      | nil => exact absurd (List.isPrefixOf_iff_prefix.mpr ⟨b, hdata.symm⟩) hsub
      | cons y a =>
        obtain ⟨-, hrest⟩ := List.cons.inj hdata
        exact Nat.succ_le_succ (ih hi hrest)

theorem utf8Bytes_extension : utf8Bytes ".sw_traces".toList = needle := by decide

/-- The name ends with the extension, and it does not come any earlier. -/
theorem FileName.extension {data : Option Bytes} {name : String} (h : FileName data name) :
    ∃ stem, name.toList = stem ++ ".sw_traces".toList ∧
      ∀ a b, name.toList = a ++ ".sw_traces".toList ++ b → b = [] := by
  obtain ⟨bytes, idx, -, hfind, hdecode⟩ := h
  have hbytes := decodeUtf8_some hdecode
  generalize (bytes.drop headerSize).take filenameSize = dataFname at hfind hbytes
  obtain ⟨front, back, rfl, rfl⟩ := find_some hfind
  rw [← List.length_append, List.take_left] at hbytes
  have hascii : ∀ c ∈ ".sw_traces".toList,
      ∃ b : UInt8, b.IsUTF8FirstByte ∧ String.utf8EncodeChar c = [b] := by
    have hall : ".sw_traces".toList.all (fun c =>
        decide ((UInt8.ofNat c.toNat).IsUTF8FirstByte ∧
          String.utf8EncodeChar c = [UInt8.ofNat c.toNat])) = true := by decide
    intro c hc
    exact ⟨UInt8.ofNat c.toNat, of_decide_eq_true (List.all_eq_true.mp hall c hc)⟩
  obtain ⟨stem, hstem, -⟩ := utf8Bytes_suffix hascii (hbytes.trans (by rw [utf8Bytes_extension]))
  refine ⟨stem, hstem, ?_⟩
  intro a b hsplit
  rw [hsplit, utf8Bytes_append, utf8Bytes_append, utf8Bytes_extension] at hbytes
  have hfirst := find_first hfind (a := utf8Bytes a) (b := utf8Bytes b ++ back) (by
    rw [← hbytes]
    simp)
  have hlength := congrArg List.length hbytes
  simp only [List.length_append] at hlength
  have hnone : (utf8Bytes b).length = 0 := by omega
  cases b with
  | nil => rfl
  | cons c b =>
    have hempty := List.length_eq_zero_iff.mp hnone
    rw [utf8Bytes, List.flatMap_cons, List.append_eq_nil_iff] at hempty
    exact absurd hempty.1 String.utf8EncodeChar_ne_nil

/-! ### Where the file goes -/

theorem slash_notMem_digits (n : Nat) : '/' ∉ Nat.toDigits 10 n := by
  intro h
  have := Nat.isDigit_of_mem_toDigits (by decide) (by decide) h
  cases this

theorem slash_notMem_padded (width n : Nat) : '/' ∉ padded width n := by
  simp [padded, slash_notMem_digits]

theorem slash_notMem_timestamp (t : Now) : '/' ∉ t.timestamp := by
  simp [Now.timestamp, slash_notMem_padded]

theorem slash_notMem_version (v : VersionRead) : '/' ∉ v.text := by
  unfold VersionRead.text
  split
  · simp [versionText, slash_notMem_digits]
  · simp

/-- The new name is a single component. -/
theorem plain_fname (host : Host) {stem extension : Text} (hstem : '/' ∉ stem)
    (hextension : '/' ∉ extension) :
    Plain (stem ++ '_' :: 'v' :: host.version.text ++ '_' :: host.now.timestamp ++
      '.' :: extension) := by
  have hlong : 2 < (stem ++ '_' :: 'v' :: host.version.text ++ '_' :: host.now.timestamp ++
      '.' :: extension).length := by
    simp only [List.length_append, List.length_cons]
    omega
  refine ⟨?_, ?_, ?_, ?_⟩
  · intro h
    exact absurd (h ▸ hlong) (by decide)
  · intro h
    exact absurd (h ▸ hlong) (by decide)
  · intro h
    exact absurd (h ▸ hlong) (by decide)
  · simp [hstem, hextension, slash_notMem_version, slash_notMem_timestamp]

/-- The opened path lies in the directory that the folder part of the path leads to. -/
theorem location_opened (host : Host) (storagePath name : Text) {fname : Text} (h : Plain fname) :
    location host.cwd (join (abspath host.cwd (dirname (join storagePath name))) fname) =
      (if isAbsolute name then place (folder name)
        else walk (location host.cwd storagePath) ((folder name).splitOn '/')) ++ [fname] := by
  have hrelative : isAbsolute fname = false := by
    rw [isAbsolute, decide_eq_false_iff_not]
    exact fun hhead => h.2.2.2 (List.mem_of_head? hhead)
  obtain ⟨habs, hplace⟩ := abspath_spec host.cwdAbsolute (dirname (join storagePath name))
  rw [location_join, if_neg (by simp [hrelative]), List.splitOn_eq_singleton h.2.2.2,
    walk_all_plain (by simpa using h), location_eq, if_pos habs, hplace, location_dirname,
    (folder_join storagePath name).1, location_join, isAbsolute_folder]

theorem extension_eq : ".sw_traces".toList = '.' :: "sw_traces".toList := by decide

theorem dot_notMem_extension : '.' ∉ "sw_traces".toList := by decide

/-- The second part between the dots is the extension only where there is no other dot. -/
theorem splitOn_base {base stem : Text} (hbase : base = stem ++ '.' :: "sw_traces".toList)
    (hfirst : ∀ a b, base = a ++ '.' :: "sw_traces".toList ++ b → b = []) :
    ∃ front extension more rest, base.splitOn '.' = front :: extension :: more ∧
      base = front ++ '.' :: extension ++ rest ∧ '.' ∉ extension ∧
      (extension = "sw_traces".toList ↔ '.' ∉ stem) := by
  have hplain := List.splitOn_eq_singleton dot_notMem_extension
  generalize "sw_traces".toList = known at *
  by_cases hdot : '.' ∈ stem
  · obtain ⟨front, tail, rfl, hfront⟩ := List.eq_append_cons_of_mem hdot
    have hsplit : base.splitOn '.' = front :: (tail.splitOn '.' ++ [known]) := by
      rw [hbase, List.append_assoc, List.cons_append,
        List.splitOn_append_cons_self_of_not_mem hfront, List.splitOn_append_cons_self, hplain]
    cases hparts : tail.splitOn '.' with
    | nil => exact absurd hparts (List.splitOn_ne_nil _ _)
    | cons extension more =>
      have htail : ∃ rest, tail = extension ++ rest := by
        have hjoin : ['.'].intercalate (tail.splitOn '.') = tail := List.intercalate_splitOn '.'
        rw [hparts] at hjoin
        cases more with
        | nil => exact ⟨[], by simpa using hjoin.symm⟩
        | cons c more => exact ⟨'.' :: ['.'].intercalate (c :: more), by simpa using hjoin.symm⟩
      obtain ⟨rest, rfl⟩ := htail
      refine ⟨front, extension, more ++ [known], rest ++ '.' :: known, ?_, ?_, ?_, ?_⟩
      · rw [hsplit, hparts, List.cons_append]
      · rw [hbase]
        simp
      · exact notMem_of_mem_splitOn (hparts ▸ List.mem_cons_self)
      · refine iff_of_false ?_ (not_not.mpr hdot)
        rintro rfl
        -- the extension would come earlier in the name
        have hearly := hfirst front (rest ++ '.' :: extension) (by rw [hbase]; simp)
        simp at hearly
  · refine ⟨stem, known, [], [], ?_, by rw [hbase]; simp, ?_, by simp [hdot]⟩
    · rw [hbase, List.splitOn_append_cons_self_of_not_mem hdot, hplain]
    · exact notMem_of_mem_splitOn (hplain ▸ List.mem_cons_self)

/-- What stands behind the last dot. -/
theorem extension_inj {a b x y : Text} (hx : '.' ∉ x) (hy : '.' ∉ y)
    (h : a ++ '.' :: x = b ++ '.' :: y) : x = y := by
  have hsplit := congrArg (List.splitOn '.') h
  rw [List.splitOn_append_cons_self, List.splitOn_append_cons_self, List.splitOn_eq_singleton hx,
    List.splitOn_eq_singleton hy] at hsplit
  exact List.singleton_inj.mp (List.append_inj' hsplit rfl).2

variable {storagePath filename : String} {data : Option Bytes} {name : String}

/-- The first two parts of the name. The second is the extension exactly when the name has no
other dot. -/
theorem fname_parts (hname : FileName data name) :
    ∃ front extension more, (basename name.toList).splitOn '.' = front :: extension :: more ∧
      '/' ∉ front ∧ '/' ∉ extension ∧ '.' ∉ extension ∧
      (extension = "sw_traces".toList ↔
        ∃ stem, basename name.toList = stem ++ ".sw_traces".toList ∧ '.' ∉ stem) := by
  obtain ⟨stem, hstem, hfirst⟩ := hname.extension
  simp only [extension_eq] at hstem hfirst
  have hsplit := folder_append_basename stem
  have hbase : basename name.toList = basename stem ++ '.' :: "sw_traces".toList := by
    have hno : '/' ∉ basename stem ++ '.' :: "sw_traces".toList := by
      simp [slash_notMem_basename]
    rw [hstem, ← hsplit, List.append_assoc]
    rw [hsplit]
    exact (folder_append (isFolder_folder stem) hno).2
  have hearly : ∀ a b, basename name.toList = a ++ '.' :: "sw_traces".toList ++ b → b = [] := by
    intro a b h
    refine hfirst (folder name.toList ++ a) b ?_
    conv_lhs => rw [← folder_append_basename name.toList, h]
    simp only [List.append_assoc]
  obtain ⟨front, extension, more, rest, hdots, hparts, hextension, hiff⟩ :=
    splitOn_base hbase hearly
  have hno := slash_notMem_basename name.toList
  rw [hparts] at hno
  simp only [List.mem_append, List.mem_cons, not_or] at hno
  refine ⟨front, extension, more, hdots, hno.1.1, hno.1.2.2, hextension, ?_⟩
  rw [hiff, hbase, extension_eq]
  constructor
  · exact fun h => ⟨_, rfl, h⟩
  · rintro ⟨stem', h, hdot⟩
    rwa [List.append_cancel_right h]

theorem saveLog_name (host : Host) (hname : FileName data name) :
    InPlace host storagePath.toList (saveLog host (joinPath storagePath name).toList) ↔
      host.Refuses ∨ KeepsName host.cwd storagePath.toList name.toList := by
  obtain ⟨front, extension, more, hdots, hfront, hslash, hextension, hiff⟩ := fname_parts hname
  have hfull : basename (joinPath storagePath name).toList = basename name.toList := by
    rw [joinPath_toList, (folder_join _ _).2]
  unfold saveLog
  simp only [hfull, hdots]
  cases hversion : host.version with
  | raises => exact iff_of_true ⟨by simp, by simp⟩ (.inl (.inl hversion))
  | read version errCode =>
    by_cases hfails : (host.makedirsFails || host.openFails) = true
    · rw [if_pos hfails]
      exact iff_of_true ⟨by simp, by simp⟩ (.inl (.inr (Bool.or_eq_true_iff.mp hfails)))
    · have hopens : ¬ host.Refuses := by
        rintro (h | h)
        · cases hversion.symm.trans h
        · exact hfails (Bool.or_eq_true_iff.mpr h)
      have hplain := plain_fname host hfront hslash
      rw [hversion] at hplain
      have hlocation := location_opened host storagePath.toList name.toList hplain
      rw [← joinPath_toList] at hlocation
      rw [if_neg hfails, or_iff_right hopens, KeepsName, ← hiff]
      constructor
      · rintro ⟨hopened, -⟩
        obtain ⟨stem', hplace⟩ := hopened _ rfl
        rw [hlocation, hversion] at hplace
        obtain ⟨hback, hname'⟩ := List.append_inj' hplace rfl
        rw [extension_eq] at hname'
        exact ⟨hback, extension_inj hextension dot_notMem_extension (List.singleton_inj.mp hname')⟩
      · rintro ⟨hback, hknown⟩
        refine ⟨?_, by simp⟩
        rintro path hpath
        cases hpath
        refine ⟨front, ?_⟩
        rw [hlocation, hback, hversion, hknown, extension_eq]

/-- An accepted first record has left a name. -/
theorem fileName_of_valid {check : ErrorCheck} {expLen : Nat} {r : Validated}
    (h : validateReadFileResponse storagePath 0 check data expLen filename = some r)
    (hvalid : r.valid = true) :
    ∃ name, FileName data name ∧ r.filename = joinPath storagePath name := by
  cases check with
  | missing =>
    cases h
    cases hvalid
  | raises =>
    cases data with
    | none =>
      cases h
      cases hvalid
    | some bytes => cases h
  | returns isError =>
    cases data with
    | none =>
      cases h
      cases hvalid
    | some bytes =>
      simp only [validateReadFileResponse, if_true] at h
      split at h
      · next idx hidx =>
        obtain ⟨name, hname, rfl⟩ := Option.map_eq_some_iff.mp h
        exact ⟨name, ⟨bytes, idx, rfl, hidx, hname⟩, rfl⟩
      · cases h
        simp at hvalid

/-- A log is saved in its place exactly when its name stays there, or nothing is opened. -/
theorem saveLog_inPlace_iff {check : ErrorCheck} {expLen : Nat} {r : Validated}
    (h : validateReadFileResponse storagePath 0 check data expLen filename = some r)
    (hvalid : r.valid = true) (host : Host) :
    ∃ name, FileName data name ∧ r.filename = joinPath storagePath name ∧
      (InPlace host storagePath.toList (saveLog host r.filename.toList) ↔
        host.Refuses ∨ KeepsName host.cwd storagePath.toList name.toList) := by
  obtain ⟨name, hname, hfilename⟩ := fileName_of_valid h hvalid
  exact ⟨name, hname, hfilename, hfilename ▸ saveLog_name host hname⟩

/-- The first record of a trace log, with a name and zeros behind it. -/
def firstRecord (name : Bytes) : Bytes :=
  0x0a :: 0x14 :: 230 :: (name ++ List.replicate (230 - name.length) 0 ++ [0, 0])

def quietHost : Host where
  cwd := ['/']
  cwdAbsolute := rfl
  version := .read (some 0x010203) .NO_ERR
  now := ⟨2025, 1, 2, 3, 4, 5⟩
  makedirsFails := false
  openFails := false
  writeFails := false

theorem saveLog_inPlace_log : ∃ r,
    validateReadFileResponse "/data/log" 0 (.returns false)
      (some (firstRecord ("log.sw_traces".toList.map (fun c => UInt8.ofNat c.toNat)))) 235 "" =
        some r ∧
    InPlace quietHost "/data/log".toList (saveLog quietHost r.filename.toList) := by
  have hread : (validateReadFileResponse "/data/log" 0 (.returns false)
      (some (firstRecord ("log.sw_traces".toList.map (fun c => UInt8.ofNat c.toNat)))) 235
      "").map (fun r => r.valid) = some true := by
    decide +kernel
  obtain ⟨r, hr, hvalid⟩ := Option.map_eq_some_iff.mp hread
  obtain ⟨name, ⟨bytes, idx, hbytes, hfind, hdecode⟩, -, hiff⟩ :=
    saveLog_inPlace_iff hr hvalid quietHost
  cases hbytes
  have hidx : find needle (((firstRecord ("log.sw_traces".toList.map
      (fun c => UInt8.ofNat c.toNat))).drop headerSize).take filenameSize) = some 3 := by
    decide +kernel
  cases hidx.symm.trans hfind
  have hname : decodeUtf8 ((((firstRecord ("log.sw_traces".toList.map
      (fun c => UInt8.ofNat c.toNat))).drop headerSize).take filenameSize).take
      (3 + needle.length)) = some "log.sw_traces" := by
    decide +kernel
  cases hname.symm.trans hdecode
  refine ⟨r, hr, hiff.mpr (.inr ⟨?_, "log".toList, ?_, ?_⟩)⟩ <;> decide +kernel

/-- The name `/etc/x.sw_traces` takes the log out of its directory. -/
theorem not_always_inPlace : ¬ ∀ storagePath check data expLen filename r host,
    validateReadFileResponse storagePath 0 check data expLen filename = some r →
    r.valid = true → InPlace host storagePath.toList (saveLog host r.filename.toList) := by
  intro hall
  have hread : (validateReadFileResponse "/data/log" 0 (.returns false)
      (some (firstRecord ("/etc/x.sw_traces".toList.map (fun c => UInt8.ofNat c.toNat)))) 235
      "").map (fun r => (r.valid, r.filename)) = some (true, "/etc/x.sw_traces") := by
    decide +kernel
  obtain ⟨r, hr, hfields⟩ := Option.map_eq_some_iff.mp hread
  obtain ⟨hvalid, hfilename⟩ := Prod.mk.inj hfields
  have hplace := hall _ _ _ _ _ r quietHost hr hvalid
  rw [hfilename] at hplace
  have hhead : (saveLog quietHost "/etc/x.sw_traces".toList).opened.map
      (fun path => (location quietHost.cwd path).head?) = some (some "etc".toList) := by
    decide +kernel
  obtain ⟨path, hpath, hetc⟩ := Option.map_eq_some_iff.mp hhead
  obtain ⟨stem, hlocation⟩ := hplace.opened path hpath
  rw [hlocation] at hetc
  have hdata : location quietHost.cwd "/data/log".toList = ["data".toList, "log".toList] := by
    decide +kernel
  rw [hdata, List.cons_append, List.head?_cons] at hetc
  revert hetc
  decide

end NexyGateway.TraceLogs
