import NexyGateway.LiftWrites
import NexyGateway.SignalReferences

/-!
# A write changes its own parameter only

The files are rows of words, each word a parameter of its own. What is sent back for a
file reads as before, with the new value in one place.
-/
namespace NexyGateway.Rs232Handler

open PyNumber PyJson ThousandLib

/-- The content has another value for one signal of its file, and the same for the others. -/
structure Retargeted (sigs : List Signal) (sig : Signal) (value : Int) (content data : List Json) :
    Prop where
  length : data.length = content.length
  frame : ∀ i, i ≠ sig.byteStart → i ≠ sig.byteStart + 1 → data[i]? = content[i]?
  target : ∀ clock, unpackSignal clock sig (.list data) = .ok (.str (toString value), .NO_ERR)
  others : ∀ clock, ∀ sig' ∈ sigs, sig' ≠ sig →
    unpackSignal clock sig' (.list data) = unpackSignal clock sig' (.list content)

section Layout

variable {file : String} {sigs : List Signal} {sig sig' : Signal}

theorem mem_fileSignals {first : Int} {count : Nat} (h : sig ∈ fileSignals first count) :
    ∃ i : Nat, sig = uint16 (first + i) (2 * i) := by
  obtain ⟨i, -, hsig⟩ := List.mem_map.mp h
  exact ⟨i, hsig.symm⟩

/-- Two signals of a file have no byte in common. -/
theorem fileSignals_disjoint {first : Int} {count : Nat} (h : sig ∈ fileSignals first count)
    (h' : sig' ∈ fileSignals first count) (hne : sig' ≠ sig) :
    sig'.byteStart + 2 ≤ sig.byteStart ∨ sig.byteStart + 2 ≤ sig'.byteStart := by
  obtain ⟨i, rfl⟩ := mem_fileSignals h
  obtain ⟨j, rfl⟩ := mem_fileSignals h'
  have hij : j ≠ i := by
    rintro rfl
    exact hne rfl
  simp only [uint16]
  omega

/-- Every file is a row of words. -/
theorem fileParams_words (h : (file, sigs) ∈ fileParams) :
    ∃ first count, sigs = fileSignals first count := by
  simp only [fileParams, List.mem_cons, Prod.mk.injEq, List.not_mem_nil, or_false] at h
  rcases h with ⟨-, rfl⟩ | ⟨-, rfl⟩ | ⟨-, rfl⟩ | ⟨-, rfl⟩ | ⟨-, rfl⟩
  · exact ⟨97, 15, rfl⟩
  · exact ⟨112, 14, rfl⟩
  · exact ⟨126, 6, rfl⟩
  · exact ⟨132, 6, rfl⟩
  · exact ⟨138, 6, rfl⟩

/-- The parameters of the files are found in their files, and written by way of them. -/
structure InFile (file : String) (sig : Signal) : Prop where
  signal : signalOf sig.param = some sig
  name : getFileForParam sig.param = file
  known : inDatabase sig.param = true
  notChildLock : sig.param ≠ childLockParam
  notFloorLock : sig.param ≠ floorLock.param
  notOilLevel : sig.param ≠ oilLevelParam

theorem inFile_of_mem (h : (file, sigs) ∈ fileParams) (hsig : sig ∈ sigs) : InFile file sig := by
  have hall : ∀ entry ∈ fileParams, ∀ sig ∈ entry.2, signalOf sig.param = some sig ∧
      getFileForParam sig.param = entry.1 ∧ inDatabase sig.param = true ∧
      sig.param ≠ childLockParam ∧ sig.param ≠ floorLock.param ∧ sig.param ≠ oilLevelParam := by
    decide
  obtain ⟨hsignal, hname, hknown, hchild, hfloor, hoil⟩ := hall _ h sig hsig
  exact ⟨hsignal, hname, hknown, hchild, hfloor, hoil⟩

end Layout

section Content

variable {sigs : List Signal} {sig : Signal} {value : Int} {content data : List Json}

theorem Replaced.retargeted {first : Int} {count : Nat} (hsig : sig ∈ fileSignals first count)
    (hsignal : signalOf sig.param = some sig) (hvalue : 0 ≤ value ∧ value ≤ 65535)
    (h : Replaced sig.param value content data) :
    Retargeted (fileSignals first count) sig value content data := by
  obtain ⟨sig', hsig', hbytes, hother⟩ := h.bytes
  rw [hsignal] at hsig'
  cases hsig'
  obtain ⟨i, hword⟩ := mem_fileSignals hsig
  have htype : sig.type = .uint := by rw [hword, uint16]
  have hsize : sig.byteSize = 2 := by rw [hword, uint16]
  rw [hsize] at hother
  refine ⟨h.length, fun k hk hk' => hother k (by omega), fun clock => ?_, ?_⟩
  · have hfits : value.toNat < 256 ^ sig.byteSize := by
      rw [hsize]
      omega
    rw [unpackSignal_cut clock htype hfits (region_cut hbytes), Int.toNat_of_nonneg hvalue.1]
  · intro clock sig' hsig' hne
    obtain ⟨j, hword'⟩ := mem_fileSignals hsig'
    refine unpackSignal_congr clock (by rw [hword', uint16]) fun k hk => ?_
    have hsize' : sig'.byteSize = 2 := by rw [hword', uint16]
    have := fileSignals_disjoint hsig hsig' hne
    exact hother _ (by omega)

end Content

section Write

variable {h : Handler} {file : String} {sigs : List Signal} {sig : Signal} {value : Int}
  {reads replies : List FrameRead} {reply : FileReply} {content : List Json}

/-- A file is read only through an open port. -/
theorem read1kFile_sent {available : Bool} {saved : Saved} (hfile : file ∈ validFileNames)
    (hread : (read1kFile available file reads saved).result = .ok reply)
    (hcode : reply.errCode = .NO_ERR) :
    available = true ∧ (read1kFile available file reads saved).sent = [.readFile file] := by
  have hgood : ¬ (available = true ∧ file ∉ validFileNames) := fun hbad => hbad.2 hfile
  rw [read1kFile, if_neg hgood] at hread ⊢
  cases available with
  | false =>
    cases hread
    cases hcode
  | true =>
    refine ⟨rfl, ?_⟩
    simp only [request, Bool.not_true, Bool.false_eq_true, if_false]
    split
    · rfl
    · split <;> rfl

theorem write1kFile_sent (hfile : file ∈ validFileNames) (data : List Json) (saved : Saved) :
    (write1kFile true file data replies saved).sent = [.writeFile file data] := by
  have hgood : ¬ ((true : Bool) = true ∧ file ∉ validFileNames) := fun hbad => hbad.2 hfile
  rw [write1kFile, if_neg hgood]
  simp only [request, Bool.not_true, Bool.false_eq_true, if_false]
  split
  · rfl
  · split <;> rfl

/-- Content that reaches up to the parameter is overwritten. -/
theorem overwritten_long (hsignal : signalOf sig.param = some sig) (hcode : reply.errCode = .NO_ERR)
    (hread : (read1kFile h.available file reads h.saved).result = .ok reply)
    (hdata : reply.fileData = some (.list content)) (hvalue : 0 ≤ value ∧ value ≤ 65535)
    (hlong : sig.byteStart + sig.byteSize ≤ content.length) :
    ∃ data, overwritten sig.param value reply = .ok (some data) ∧
      Replaced sig.param value content data := by
  obtain ⟨-, rsp, rest, err, -, hresp, hfirst, -, -⟩ := read1kFile_ok hread hcode
  have hsize := signalOf_size hsignal
  have hcontent : rsp.lookup "data" = some (.list content) := hfirst.symm.trans hdata
  have hfits : Fits sig value content := by
    refine ⟨?_, hlong⟩
    rw [hsize]
    omega
  obtain ⟨respData, fileData, errCode⟩ := reply
  cases hresp
  rcases overwritten_cases value rest fileData errCode hsignal hcontent with
    ⟨rfl, -⟩ | ⟨-, hno, -⟩ | ⟨-, -, data, hok⟩
  · rw [List.length_nil, hsize] at hlong
    omega
  · exact absurd hfits hno
  · obtain ⟨rsp', rest', content', hresp', hcontent', hreplaced⟩ := overwritten_ok hok
    cases hresp'
    rw [hcontent] at hcontent'
    cases hcontent'
    exact ⟨data, hok, hreplaced⟩

/-- What is sent back for a file has the new value in its place, and everything else as it was. -/
theorem writeParameter_retargets {paramStr valueStr : String} (hfile : (file, sigs) ∈ fileParams)
    (hsig : sig ∈ sigs) (hparam : PyNumber.int paramStr = some sig.param)
    (hvalue : PyNumber.int valueStr = some value) (hrange : 0 ≤ value ∧ value ≤ 65535)
    (hset : h.lib.value sig.param ≠ .str "") (hnew : h.lib.value sig.param ≠ .str valueStr)
    (hread : (read1kFile h.available file reads h.saved).result = .ok reply)
    (hcode : reply.errCode = .NO_ERR) (hdata : reply.fileData = some (.list content))
    (hlong : sig.byteStart + sig.byteSize ≤ content.length) :
    ∃ data, (writeParameter h paramStr valueStr reads replies).1.sent =
        [.readFile file, .writeFile file data] ∧ Retargeted sigs sig value content data := by
  obtain ⟨first, count, rfl⟩ := fileParams_words hfile
  have hin := inFile_of_mem hfile hsig
  obtain ⟨data, hoverwritten, hreplaced⟩ :=
    overwritten_long hin.signal hcode hread hdata hrange hlong
  refine ⟨data, ?_, hreplaced.retargeted hsig hin.signal hrange⟩
  have hvalid : file ∈ validFileNames := (read1kFile_ok hread hcode).1
  have hget : getParam sig.param h.lib = (h.lib.value sig.param, .NO_ERR) := by
    have hunset : ¬ (h.lib.value sig.param).eq (.str "") = true := by simpa using hset
    rw [getParam, hin.known]
    simp [hunset]
  have hdispatch := (writeParameter_dispatch reads replies hparam hvalue (h := h) (by
    rw [hget]
    simpa using hnew)).1
  obtain ⟨hopen, hreadSent⟩ := read1kFile_sent hvalid hread hcode
  have hnamed : file ≠ "" := by
    rintro rfl
    exact absurd hvalid (by decide)
  have hbranch : writeDispatch h sig.param value valueStr reads replies =
      writeFileParam h sig.param value reads replies := by
    rw [writeDispatch, if_neg hin.notChildLock, if_neg hin.notFloorLock, if_neg hin.notOilLevel]
  rw [hdispatch, hbranch]
  unfold writeFileParam
  simp only [hin.name, hget, ne_eq, not_true, if_false, hnamed, hread, hcode, hoverwritten,
    hreadSent]
  rw [hopen, write1kFile_sent hvalid]
  rfl

/-- Two nodes, of which the first is at floor 1. -/
def nodeReply : List FrameRead :=
  [.text (some [.object [("cmd", .str "readFile"), ("name", .str "/aritco/node"),
    ("data", .list [.int 1, .int 0, .int 2, .int 0]), ("err", .int 0)]])]

def nodeHandler : Handler := ⟨Lib.fresh.set 126 (.str "1"), ⟨[], []⟩, 0, true⟩

/-- The first node is moved to 258, and the second one is left. -/
theorem writeParameter_retargets_node : ∃ data : List Json,
    (writeParameter nodeHandler "126" "0258" nodeReply []).1.sent =
      [.readFile "/aritco/node", .writeFile "/aritco/node" data] ∧
    unpackSignal (fun _ => 0) (uint16 126 0) (.list data) = .ok (.str "258", .NO_ERR) ∧
    data[2]? = some (.int 2) := by
  obtain ⟨reply, hread, hcode, hdata⟩ : ∃ reply : FileReply,
      (read1kFile nodeHandler.available "/aritco/node" nodeReply nodeHandler.saved).result =
          .ok reply ∧ reply.errCode = .NO_ERR ∧
        reply.fileData = some (.list [.int 1, .int 0, .int 2, .int 0]) := ⟨_, rfl, rfl, rfl⟩
  have hfile : ("/aritco/node", paramsReadFileNode) ∈ fileParams := by simp [fileParams]
  have hsig : uint16 126 0 ∈ paramsReadFileNode := by decide
  have hold : nodeHandler.lib.value (uint16 126 0).param = .str "1" := set_value_same ..
  have hset : nodeHandler.lib.value (uint16 126 0).param ≠ .str "" := by simp [hold]
  have hnew : nodeHandler.lib.value (uint16 126 0).param ≠ .str "0258" := by simp [hold]
  have hvalue : PyNumber.int "0258" = some 258 := by decide
  obtain ⟨data, hsent, hdone⟩ : ∃ data,
      (writeParameter nodeHandler "126" "0258" nodeReply []).1.sent =
          [.readFile "/aritco/node", .writeFile "/aritco/node" data] ∧
        Retargeted paramsReadFileNode (uint16 126 0) 258
          [.int 1, .int 0, .int 2, .int 0] data :=
    writeParameter_retargets hfile hsig (by decide) hvalue (by decide) hset hnew hread hcode hdata
      (by decide)
  exact ⟨data, hsent, hdone.target _, hdone.frame 2 (by decide) (by decide)⟩

end Write

end NexyGateway.Rs232Handler
