import Mathlib.Algebra.Order.Ring.Rat
import Mathlib.Logic.Function.Basic
import NexyGateway.PosixPath

/-!
# Download of a blob

The transfer goes into a temporary file beside the destination and is moved over the destination
at the end. A file is its content here, different paths are different files, and what can fail on
the way comes from outside.
-/
namespace NexyGateway.BlobDownload

abbrev Bytes := List UInt8

abbrev Files := String → Option Bytes

namespace Files

def write (files : Files) (path : String) (content : Bytes) : Files :=
  Function.update files path (some content)

def remove (files : Files) (path : String) : Files := Function.update files path none

/-- `os.replace(source, target)` -/
def replace (files : Files) (source target : String) : Files :=
  remove (Function.update files target (files source)) source

variable {files : Files} {path other : String} {content : Bytes}

@[simp] theorem write_same : files.write path content path = some content := by simp [write]

theorem write_other (h : other ≠ path) : files.write path content other = files other := by
  simp [write, h]

@[simp] theorem remove_same : files.remove path path = none := by simp [remove]

theorem remove_other (h : other ≠ path) : files.remove path other = files other := by
  simp [remove, h]

@[simp] theorem replace_source : files.replace path other path = none := by simp [replace]

theorem replace_target (h : other ≠ path) : files.replace path other other = files path := by
  simp [replace, remove, h]

theorem replace_frame {third : String} (hs : third ≠ path) (ht : third ≠ other) :
    files.replace path other third = files third := by
  simp [replace, remove, hs, ht]

end Files

def transferDeadlineS : Rat := 600

inductive Failure where
  | makedirs
  | connect
  | opening
  | read
  | deadline
  | sizeCap (total : Nat) (maxBytes : Nat)
  | write
  | close
  | replace
  deriving DecidableEq, Repr

/-- One turn of the loop: the chunk that is read, if the stream does not fail, the clock behind
it, and what a failing write leaves in the file. -/
structure Turn where
  read : Option Bytes
  clock : Rat
  writeFails : Option Bytes := none
  deriving DecidableEq, Repr

/-- What the disk, the network and the clock do. Behind the last turn the stream is at its end. -/
structure World where
  makedirsFails : Bool := false
  connectFails : Bool := false
  openFails : Bool := false
  start : Rat := 0
  turns : List Turn
  closeFails : Option Bytes := none
  replaceFails : Bool := false
  removeFails : Bool := false
  deriving DecidableEq, Repr

/-- `os.makedirs(os.path.dirname(destination_path))` raises. It always does for a bare name, whose
directory part is empty. -/
def World.makedirsRaises (w : World) (destinationPath : String) : Bool :=
  w.makedirsFails || (PosixPath.dirname destinationPath.toList).isEmpty

/-- `max_bytes is not None and total > max_bytes` -/
def exceeds (maxBytes : Option Nat) (total : Nat) : Option Nat := maxBytes.filter (· < total)

/-- The loop, with the content of the file. -/
def copyChunks (maxBytes : Option Nat) (deadline : Rat) (total : Nat) (content : Bytes) :
    List Turn → Except Failure Nat × Bytes
  | [] => (.ok total, content)
  | t :: rest =>
    match t.read with
    | none => (.error .read, content)
    | some [] => (.ok total, content)
    | some (b :: chunk) =>
      if deadline < t.clock then (.error .deadline, content)
      else
        let total := total + (b :: chunk).length
        match exceeds maxBytes total with
        | some cap => (.error (.sizeCap total cap), content)
        | none =>
          match t.writeFails with
          | some left => (.error .write, left)
          | none => copyChunks maxBytes deadline total (content ++ b :: chunk) rest

def transferToFile (files : Files) (tmpPath : String) (maxBytes : Option Nat) (w : World) :
    Except Failure Nat × Files :=
  if w.connectFails then (.error .connect, files)
  else if w.openFails then (.error .opening, files)
  else
    let (result, content) := copyChunks maxBytes (w.start + transferDeadlineS) 0 [] w.turns
    match w.closeFails with
    | some left => (.error .close, files.write tmpPath left)
    | none => (result, files.write tmpPath content)

/-- The `try` block. -/
def fetch (files : Files) (destinationPath : String) (maxBytes : Option Nat) (w : World) :
    Except Failure Nat × Files :=
  let tmpPath := destinationPath ++ ".tmp"
  if w.makedirsRaises destinationPath then (.error .makedirs, files)
  else
    match transferToFile files tmpPath maxBytes w with
    | (.error e, files) => (.error e, files)
    | (.ok total, files) =>
      if w.replaceFails then (.error .replace, files)
      else (.ok total, files.replace tmpPath destinationPath)

def downloadFromBlob (files : Files) (destinationPath : String) (maxBytes : Option Nat)
    (w : World) : Bool × Files :=
  match fetch files destinationPath maxBytes w with
  | (.ok _, files) => (true, files)
  | (.error _, files) =>
    (false, if w.removeFails then files else files.remove (destinationPath ++ ".tmp"))

/-- All that the stream delivers. -/
def received : List Turn → Bytes
  | [] => []
  | t :: rest =>
    match t.read with
    | none | some [] => []
    | some (b :: chunk) => b :: chunk ++ received rest

structure Atomic (files : Files) (destinationPath : String) (maxBytes : Option Nat) (w : World)
    (ok : Bool) (after : Files) : Prop where
  stored : ok = true → after destinationPath = some (received w.turns) ∧
    ∀ cap, maxBytes = some cap → (received w.turns).length ≤ cap
  untouched : ok = false → after destinationPath = files destinationPath
  frame : ∀ path ≠ destinationPath, ∀ content, files path = some content →
    after path = some content

/-! ## How a transfer ends -/

def Fits (maxBytes : Option Nat) (total : Nat) : Prop := ∀ cap, maxBytes = some cap → total ≤ cap

/-- The chunk comes in time and is written. -/
def Turn.Delivers (t : Turn) (deadline : Rat) : Prop :=
  (∃ b chunk, t.read = some (b :: chunk)) ∧ t.clock ≤ deadline ∧ t.writeFails = none

/-- Behind the content the stream is at its end, or it goes wrong there: `left` is in the file. -/
inductive Stops (maxBytes : Option Nat) (deadline : Rat) (content : Bytes) :
    List Turn → Bool → Bytes → Prop
  | ended : Stops maxBytes deadline content [] true content
  | done (t : Turn) (rest : List Turn) : t.read = some [] →
      Stops maxBytes deadline content (t :: rest) true content
  | readFails (t : Turn) (rest : List Turn) : t.read = none →
      Stops maxBytes deadline content (t :: rest) false content
  | late (t : Turn) (rest : List Turn) (b : UInt8) (chunk : Bytes) :
      t.read = some (b :: chunk) → deadline < t.clock →
      Stops maxBytes deadline content (t :: rest) false content
  | tooLarge (t : Turn) (rest : List Turn) (b : UInt8) (chunk : Bytes) :
      t.read = some (b :: chunk) → t.clock ≤ deadline →
      ¬ Fits maxBytes (content.length + (b :: chunk).length) →
      Stops maxBytes deadline content (t :: rest) false content
  | writeFails (t : Turn) (rest : List Turn) (b : UInt8) (chunk left : Bytes) :
      t.read = some (b :: chunk) → t.clock ≤ deadline →
      Fits maxBytes (content.length + (b :: chunk).length) → t.writeFails = some left →
      Stops maxBytes deadline content (t :: rest) false left

/-- Chunks are delivered until the transfer stops. -/
def Ends (maxBytes : Option Nat) (deadline : Rat) (turns : List Turn) (ok : Bool) (left : Bytes) :
    Prop :=
  ∃ before rest, turns = before ++ rest ∧ (∀ t ∈ before, t.Delivers deadline) ∧
    Fits maxBytes (received before).length ∧
    Stops maxBytes deadline (received before) rest ok left

/-- The temporary file is not touched. -/
def World.Unopened (w : World) (destinationPath : String) : Prop :=
  w.makedirsRaises destinationPath = true ∨ w.connectFails = true ∨ w.openFails = true

/-- The download fails with `left` in the temporary file. -/
def World.FailsWith (w : World) (maxBytes : Option Nat) (left : Bytes) : Prop :=
  w.closeFails = some left ∨ w.closeFails = none ∧
    (Ends maxBytes (w.start + transferDeadlineS) w.turns false left ∨
      Ends maxBytes (w.start + transferDeadlineS) w.turns true left ∧ w.replaceFails = true)

/-- There is no file under the temporary name, or the call fails, cannot remove it and leaves it
with the content it had. -/
def Spared (files : Files) (destinationPath : String) (maxBytes : Option Nat) (w : World) : Prop :=
  files (destinationPath ++ ".tmp") = none ∨
    w.removeFails = true ∧ (w.Unopened destinationPath ∨
      ∃ left, w.FailsWith maxBytes left ∧ files (destinationPath ++ ".tmp") = some left)

section Transfer

variable {maxBytes : Option Nat} {deadline : Rat} {turns : List Turn} {content left : Bytes}
  {ok : Bool}

theorem exceeds_eq_none {total : Nat} : exceeds maxBytes total = none ↔ Fits maxBytes total := by
  cases maxBytes <;> simp [exceeds, Fits, Option.filter_eq_none_iff]

theorem copyChunks_delivered (content : Bytes) {before : List Turn} (rest : List Turn)
    (hbefore : ∀ t ∈ before, t.Delivers deadline)
    (hfits : Fits maxBytes (content.length + (received before).length)) :
    copyChunks maxBytes deadline content.length content (before ++ rest) =
      copyChunks maxBytes deadline (content ++ received before).length
        (content ++ received before) rest := by
  induction before generalizing content with
  | nil => simp [received]
  | cons t before ih =>
    obtain ⟨⟨⟨b, chunk, hread⟩, hclock, hwrite⟩, hothers⟩ := List.forall_mem_cons.mp hbefore
    have hreceived : received (t :: before) = b :: chunk ++ received before := by
      simp only [received, hread]
    rw [hreceived, List.length_append] at hfits
    have hnow : exceeds maxBytes (content.length + (b :: chunk).length) = none :=
      exceeds_eq_none.mpr (fun cap hcap => by have := hfits cap hcap; omega)
    have hrest := @ih (content ++ b :: chunk) hothers (by
      rw [List.length_append, Nat.add_assoc]
      exact hfits)
    rw [List.length_append] at hrest
    simp only [List.cons_append, copyChunks, hread, if_neg (not_lt.mpr hclock), hnow, hwrite]
    rw [hrest, hreceived, List.append_assoc]

theorem copyChunks_stops {rest : List Turn} (h : Stops maxBytes deadline content rest ok left) :
    ∃ r, copyChunks maxBytes deadline content.length content rest = (r, left) ∧
      (ok = true → r = .ok content.length) ∧ (ok = false → ∃ e, r = .error e) := by
  cases h with
  | ended => exact ⟨_, rfl, fun _ => rfl, by simp⟩
  | done t rest hread => exact ⟨_, by simp only [copyChunks, hread], fun _ => rfl, by simp⟩
  | readFails t rest hread =>
    exact ⟨.error .read, by simp only [copyChunks, hread], by simp, fun _ => ⟨_, rfl⟩⟩
  | late t rest b chunk hread hclock =>
    exact ⟨.error .deadline, by simp only [copyChunks, hread, if_pos hclock], by simp,
      fun _ => ⟨_, rfl⟩⟩
  | tooLarge t rest b chunk hread hclock hlarge =>
    rw [← exceeds_eq_none] at hlarge
    obtain ⟨cap, hcap⟩ := Option.ne_none_iff_exists'.mp hlarge
    refine ⟨.error (.sizeCap (content.length + (b :: chunk).length) cap), ?_, by simp,
      fun _ => ⟨_, rfl⟩⟩
    simp only [copyChunks, hread, if_neg (not_lt.mpr hclock), hcap]
  | writeFails t rest b chunk left hread hclock hfits hwrite =>
    refine ⟨.error .write, ?_, by simp, fun _ => ⟨_, rfl⟩⟩
    simp only [copyChunks, hread, if_neg (not_lt.mpr hclock), exceeds_eq_none.mpr hfits, hwrite]

theorem copyChunks_ends (h : Ends maxBytes deadline turns ok left) :
    ∃ r, copyChunks maxBytes deadline 0 [] turns = (r, left) ∧
      (ok = true → ∃ total, r = .ok total) ∧ (ok = false → ∃ e, r = .error e) := by
  obtain ⟨before, rest, rfl, hbefore, hfits, hstops⟩ := h
  have hskip := copyChunks_delivered [] rest hbefore (by simpa using hfits)
  obtain ⟨r, hrun, hok, herror⟩ := copyChunks_stops hstops
  simp only [List.nil_append, List.length_nil] at hskip
  exact ⟨r, hskip.trans hrun, fun h => ⟨_, hok h⟩, herror⟩

/-- Every transfer ends in one way. -/
theorem exists_ends (maxBytes : Option Nat) (deadline : Rat) (turns : List Turn) :
    ∃ ok left, Ends maxBytes deadline turns ok left := by
  suffices hfrom : ∀ content, Fits maxBytes content.length → ∃ before rest ok left,
      turns = before ++ rest ∧ (∀ t ∈ before, t.Delivers deadline) ∧
      Fits maxBytes (content ++ received before).length ∧
      Stops maxBytes deadline (content ++ received before) rest ok left by
    obtain ⟨before, rest, ok, left, hturns, hbefore, hfits, hstops⟩ :=
      hfrom [] (fun cap _ => Nat.zero_le cap)
    exact ⟨ok, left, before, rest, hturns, hbefore, hfits, hstops⟩
  induction turns with
  | nil =>
    intro content hfits
    exact ⟨[], [], true, content, rfl, by simp, by simpa [received] using hfits,
      by simpa [received] using Stops.ended⟩
  | cons t turns ih =>
    intro content hfits
    have hhere : ∀ {ok left}, Stops maxBytes deadline content (t :: turns) ok left →
        ∃ before rest ok left, t :: turns = before ++ rest ∧ (∀ t ∈ before, t.Delivers deadline) ∧
          Fits maxBytes (content ++ received before).length ∧
          Stops maxBytes deadline (content ++ received before) rest ok left := by
      intro ok left hstops
      exact ⟨[], t :: turns, ok, left, rfl, by simp, by simpa [received] using hfits,
        by simpa [received] using hstops⟩
    cases hread : t.read with
    | none => exact hhere (.readFails t turns hread)
    | some chunk =>
      cases chunk with
      | nil => exact hhere (.done t turns hread)
      | cons b chunk =>
        by_cases hclock : deadline < t.clock
        · exact hhere (.late t turns b chunk hread hclock)
        · rw [not_lt] at hclock
          by_cases hmore : Fits maxBytes (content.length + (b :: chunk).length)
          · cases hwrite : t.writeFails with
            | some left => exact hhere (.writeFails t turns b chunk left hread hclock hmore hwrite)
            | none =>
              obtain ⟨before, rest, ok, left, hturns, hbefore, hfits', hstops⟩ :=
                ih (content ++ b :: chunk) (by rwa [List.length_append])
              have hreceived : content ++ received (t :: before) =
                  content ++ b :: chunk ++ received before := by
                simp only [received, hread, List.append_assoc]
              refine ⟨t :: before, rest, ok, left, by rw [hturns]; rfl, ?_, ?_, ?_⟩
              · exact List.forall_mem_cons.mpr ⟨⟨⟨b, chunk, hread⟩, hclock, hwrite⟩, hbefore⟩
              · rwa [hreceived]
              · rwa [hreceived]
          · exact hhere (.tooLarge t turns b chunk hread hclock hmore)

theorem received_append {before : List Turn} (rest : List Turn)
    (hbefore : ∀ t ∈ before, t.Delivers deadline) :
    received (before ++ rest) = received before ++ received rest := by
  induction before with
  | nil => rfl
  | cons t before ih =>
    obtain ⟨⟨⟨b, chunk, hread⟩, -⟩, hothers⟩ := List.forall_mem_cons.mp hbefore
    simp only [List.cons_append, received, hread, ih hothers, List.append_assoc]

theorem Ends.complete (h : Ends maxBytes deadline turns true left) :
    left = received turns ∧ Fits maxBytes left.length := by
  obtain ⟨before, rest, rfl, hbefore, hfits, hstops⟩ := h
  rw [received_append rest hbefore]
  cases hstops with
  | ended => exact ⟨by simp [received], hfits⟩
  | done t rest hread => exact ⟨by simp [received, hread], hfits⟩

end Transfer

section Call

variable {files : Files} {destinationPath : String} {maxBytes : Option Nat} {w : World}

theorem tmp_ne (path : String) : path ++ ".tmp" ≠ path := by
  intro h
  have hlength := congrArg String.length h
  rw [String.length_append] at hlength
  change path.length + 4 = path.length at hlength
  omega

/-- A call that does not come to a good end, and what it leaves in the temporary file. -/
theorem downloadFromBlob_unopened (h : w.Unopened destinationPath) :
    downloadFromBlob files destinationPath maxBytes w =
      (false, if w.removeFails then files else files.remove (destinationPath ++ ".tmp")) := by
  have hfetch : ∃ e, fetch files destinationPath maxBytes w = (.error e, files) := by
    by_cases hmake : w.makedirsRaises destinationPath = true
    · exact ⟨.makedirs, by simp only [fetch, if_pos hmake]⟩
    · by_cases hconnect : w.connectFails = true
      · exact ⟨.connect, by simp only [fetch, transferToFile, if_neg hmake, if_pos hconnect]⟩
      · have hopen : w.openFails = true := (h.resolve_left hmake).resolve_left hconnect
        exact ⟨.opening, by
          simp only [fetch, transferToFile, if_neg hmake, if_neg hconnect, if_pos hopen]⟩
  obtain ⟨e, hfetch⟩ := hfetch
  simp only [downloadFromBlob, hfetch]

theorem fetch_opened (h : ¬ w.Unopened destinationPath) :
    fetch files destinationPath maxBytes w =
      match copyChunks maxBytes (w.start + transferDeadlineS) 0 [] w.turns, w.closeFails with
      | _, some left => (.error .close, files.write (destinationPath ++ ".tmp") left)
      | (.error e, content), none => (.error e, files.write (destinationPath ++ ".tmp") content)
      | (.ok total, content), none =>
        if w.replaceFails then (.error .replace, files.write (destinationPath ++ ".tmp") content)
        else (.ok total, (files.write (destinationPath ++ ".tmp") content).replace
          (destinationPath ++ ".tmp") destinationPath) := by
  simp only [World.Unopened, not_or] at h
  obtain ⟨hmake, hconnect, hopen⟩ := h
  simp only [fetch, transferToFile, if_neg hmake, if_neg hconnect, if_neg hopen]
  cases w.closeFails with
  | some left => rfl
  | none =>
    rcases copyChunks maxBytes (w.start + transferDeadlineS) 0 [] w.turns with ⟨_ | _, content⟩ <;>
      rfl

theorem downloadFromBlob_fails {left : Bytes} (hopen : ¬ w.Unopened destinationPath)
    (h : w.FailsWith maxBytes left) :
    downloadFromBlob files destinationPath maxBytes w =
      (false, if w.removeFails then files.write (destinationPath ++ ".tmp") left
        else (files.write (destinationPath ++ ".tmp") left).remove (destinationPath ++ ".tmp")) := by
  have hfetch : ∃ e, fetch files destinationPath maxBytes w =
      (.error e, files.write (destinationPath ++ ".tmp") left) := by
    rw [fetch_opened hopen]
    rcases h with hclose | ⟨hclose, hends | ⟨hends, hreplace⟩⟩
    · simp only [hclose]
      exact ⟨_, rfl⟩
    · obtain ⟨r, hrun, -, herror⟩ := copyChunks_ends hends
      obtain ⟨e, rfl⟩ := herror rfl
      simp only [hclose, hrun]
      exact ⟨e, rfl⟩
    · obtain ⟨r, hrun, hok, -⟩ := copyChunks_ends hends
      obtain ⟨total, rfl⟩ := hok rfl
      simp only [hclose, hrun, if_pos hreplace]
      exact ⟨_, rfl⟩
  obtain ⟨e, hfetch⟩ := hfetch
  simp only [downloadFromBlob, hfetch]

theorem downloadFromBlob_succeeds (files : Files) (hopen : ¬ w.Unopened destinationPath)
    (hnone : ∀ left, ¬ w.FailsWith maxBytes left) :
    Fits maxBytes (received w.turns).length ∧
      downloadFromBlob files destinationPath maxBytes w =
        (true, (files.write (destinationPath ++ ".tmp") (received w.turns)).replace
          (destinationPath ++ ".tmp") destinationPath) := by
  have hclose : w.closeFails = none := by
    cases hclose : w.closeFails with
    | none => rfl
    | some left => exact absurd (.inl hclose) (hnone left)
  obtain ⟨ok, left, hends⟩ := exists_ends maxBytes (w.start + transferDeadlineS) w.turns
  cases ok with
  | false => exact absurd (.inr ⟨hclose, .inl hends⟩) (hnone left)
  | true =>
    have hreplace : ¬ w.replaceFails = true :=
      fun hreplace => hnone left (.inr ⟨hclose, .inr ⟨hends, hreplace⟩⟩)
    obtain ⟨rfl, hfits⟩ := hends.complete
    obtain ⟨r, hrun, hok, -⟩ := copyChunks_ends hends
    obtain ⟨total, rfl⟩ := hok rfl
    refine ⟨hfits, ?_⟩
    simp only [downloadFromBlob, fetch_opened hopen, hclose, hrun, if_neg hreplace]

/-- After a call that returns `True` the destination holds what the stream has delivered. -/
theorem stored_of_succeeded (h : (downloadFromBlob files destinationPath maxBytes w).1 = true) :
    (downloadFromBlob files destinationPath maxBytes w).2 destinationPath =
      some (received w.turns) ∧ Fits maxBytes (received w.turns).length := by
  by_cases hopen : w.Unopened destinationPath
  · rw [downloadFromBlob_unopened hopen] at h
    cases h
  · by_cases hfails : ∃ left, w.FailsWith maxBytes left
    · obtain ⟨left, hleft⟩ := hfails
      rw [downloadFromBlob_fails hopen hleft] at h
      cases h
    · rw [not_exists] at hfails
      obtain ⟨hfits, hresult⟩ := downloadFromBlob_succeeds files hopen hfails
      rw [hresult]
      exact ⟨(Files.replace_target (tmp_ne destinationPath).symm).trans Files.write_same, hfits⟩

/-- A transfer leaves one content only. -/
theorem failsWith_unique {left left' : Bytes} (h : w.FailsWith maxBytes left)
    (h' : w.FailsWith maxBytes left') : left = left' := by
  rcases h with hclose | ⟨hclose, h⟩
  · rcases h' with hclose' | ⟨hclose', -⟩
    · exact Option.some.inj (hclose.symm.trans hclose')
    · cases hclose.symm.trans hclose'
  · rcases h' with hclose' | ⟨hclose', h'⟩
    · cases hclose.symm.trans hclose'
    · have hends : ∃ ok, Ends maxBytes (w.start + transferDeadlineS) w.turns ok left :=
        h.elim (⟨_, ·⟩) (⟨_, ·.1⟩)
      have hends' : ∃ ok, Ends maxBytes (w.start + transferDeadlineS) w.turns ok left' :=
        h'.elim (⟨_, ·⟩) (⟨_, ·.1⟩)
      obtain ⟨⟨ok, hends⟩, ok', hends'⟩ := And.intro hends hends'
      obtain ⟨r, hrun, -⟩ := copyChunks_ends hends
      obtain ⟨r', hrun', -⟩ := copyChunks_ends hends'
      exact (Prod.mk.inj (hrun.symm.trans hrun')).2

/-- What a failed call may have changed is the temporary file. -/
theorem atomic_failed_iff {after : Files}
    (hoff : ∀ path ≠ destinationPath ++ ".tmp", after path = files path) :
    Atomic files destinationPath maxBytes w false after ↔
      ∀ content, files (destinationPath ++ ".tmp") = some content →
        after (destinationPath ++ ".tmp") = some content := by
  constructor
  · exact fun h => h.frame _ (tmp_ne destinationPath)
  · intro h
    refine ⟨by simp, fun _ => hoff _ (tmp_ne destinationPath).symm, ?_⟩
    intro path _ content hcontent
    by_cases htmp : path = destinationPath ++ ".tmp"
    · rw [htmp] at hcontent ⊢
      exact h content hcontent
    · rw [hoff path htmp, hcontent]

/-- A successful call has moved the temporary file away. -/
theorem atomic_succeeded_iff (hfits : Fits maxBytes (received w.turns).length) :
    Atomic files destinationPath maxBytes w true
      ((files.write (destinationPath ++ ".tmp") (received w.turns)).replace
        (destinationPath ++ ".tmp") destinationPath) ↔
      files (destinationPath ++ ".tmp") = none := by
  have hne := tmp_ne destinationPath
  constructor
  · intro h
    cases htmp : files (destinationPath ++ ".tmp") with
    | none => rfl
    | some content => simpa using h.frame _ hne content htmp
  · intro htmp
    refine ⟨fun _ => ⟨?_, hfits⟩, by simp, ?_⟩
    · rw [Files.replace_target hne.symm, Files.write_same]
    · intro path hpath content hcontent
      have hother : path ≠ destinationPath ++ ".tmp" := by
        rintro rfl
        cases htmp.symm.trans hcontent
      rw [Files.replace_frame hother hpath, Files.write_other hother, hcontent]

/-- A failed transfer leaves one content, so what is spared is known. -/
theorem spared_failed_iff {left : Bytes} (hopen : ¬ w.Unopened destinationPath)
    (hleft : w.FailsWith maxBytes left) : Spared files destinationPath maxBytes w ↔
      files (destinationPath ++ ".tmp") = none ∨
        w.removeFails = true ∧ files (destinationPath ++ ".tmp") = some left := by
  simp only [Spared, hopen, false_or]
  constructor
  · rintro (h | ⟨hremove, left', hleft', hsame⟩)
    · exact .inl h
    · rw [failsWith_unique hleft hleft']
      exact .inr ⟨hremove, hsame⟩
  · rintro (h | ⟨hremove, hsame⟩)
    · exact .inl h
    · exact .inr ⟨hremove, left, hleft, hsame⟩

end Call

/-- A download is atomic exactly when the file under its temporary name is spared. -/
theorem downloadFromBlob_atomic_iff (files : Files) (destinationPath : String)
    (maxBytes : Option Nat) (w : World) :
    Atomic files destinationPath maxBytes w
      (downloadFromBlob files destinationPath maxBytes w).1
      (downloadFromBlob files destinationPath maxBytes w).2 ↔
    Spared files destinationPath maxBytes w := by
  by_cases hopen : w.Unopened destinationPath
  · rw [downloadFromBlob_unopened hopen, atomic_failed_iff]
    · simp only [Spared, hopen, true_or, and_true]
      cases hremove : w.removeFails with
      | true => simp
      | false => simp [Option.eq_none_iff_forall_ne_some]
    · intro path hpath
      split
      · rfl
      · exact Files.remove_other hpath
  · by_cases hfails : ∃ left, w.FailsWith maxBytes left
    · obtain ⟨left, hleft⟩ := hfails
      rw [downloadFromBlob_fails hopen hleft, atomic_failed_iff, spared_failed_iff hopen hleft]
      · cases hremove : w.removeFails with
        | true =>
          cases htmp : files (destinationPath ++ ".tmp") with
          | none => simp
          | some content => simp [eq_comm]
        | false => simp [Option.eq_none_iff_forall_ne_some]
      · intro path hpath
        split
        · exact Files.write_other hpath
        · exact (Files.remove_other hpath).trans (Files.write_other hpath)
    · rw [not_exists] at hfails
      obtain ⟨hfits, hresult⟩ := downloadFromBlob_succeeds files hopen hfails
      rw [hresult, atomic_succeeded_iff hfits]
      constructor
      · exact .inl
      · rintro (h | ⟨-, h | ⟨left, hleft, -⟩⟩)
        · exact h
        · exact absurd h hopen
        · exact absurd hleft (hfails left)

/-- A file `d/fw.bin.tmp` is downloaded, and then a file `d/fw.bin`: the first one is gone. -/
theorem not_always_atomic : ¬ ∀ files destinationPath maxBytes w,
    Atomic files destinationPath maxBytes w
      (downloadFromBlob files destinationPath maxBytes w).1
      (downloadFromBlob files destinationPath maxBytes w).2 := by
  intro h
  let w : World := { turns := [⟨some [1, 2], 0, none⟩] }
  let files : Files := (downloadFromBlob (fun _ => none) "d/fw.bin.tmp" none w).2
  have hframe := (h files "d/fw.bin" none w).frame "d/fw.bin.tmp" (by decide) [1, 2]
  have hbefore : files "d/fw.bin.tmp" = some [1, 2] := by decide +kernel
  have hafter : (downloadFromBlob files "d/fw.bin" none w).2 "d/fw.bin.tmp" = none := by
    decide +kernel
  cases hafter.symm.trans (hframe hbefore)

end NexyGateway.BlobDownload
