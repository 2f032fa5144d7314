import NexyGateway.SerialPort

/-!
# Framing

A frame that comes in piecewise is read as a whole exactly when no cut falls inside
a character or right behind a closing brace.
-/
namespace NexyGateway.Rs232Handler

/-- A chunk, after some polls that found nothing. -/
structure Arrival where
  idle : List Int
  clock : Int
  chunk : ByteArray

def Arrival.turns (a : Arrival) : List Turn :=
  a.idle.map (fun t => ⟨t, .waiting ByteArray.empty⟩) ++ [⟨a.clock, .waiting a.chunk⟩]

/-- The chunk comes before the deadline and before the reader runs out of patience. -/
structure Arrival.Prompt (deadline : Int) (a : Arrival) : Prop where
  nonempty : a.chunk.size ≠ 0
  patient : a.idle.length < retries
  idle : ∀ t ∈ a.idle, t < deadline
  clock : a.clock < deadline

def received : List Arrival → ByteArray
  | [] => ByteArray.empty
  | a :: arrivals => a.chunk ++ received arrivals

/-- Polls without bytes only use up patience. -/
theorem readLoop_idle {deadline : Int} {rsp : String} (hrsp : endsFrame rsp = false)
    (turns : List Turn) {idle : List Int} (hidle : ∀ t ∈ idle, t < deadline) {i : Nat}
    (hi : i + idle.length < retries) :
    readLoop deadline (idle.map (fun t => ⟨t, .waiting ByteArray.empty⟩) ++ turns) i rsp =
      readLoop deadline turns (i + idle.length) rsp := by
  induction idle generalizing i with
  | nil => rfl
  | cons t idle ih =>
    have ht : ¬ (retries ≤ i ∨ deadline ≤ t) := by
      have := hidle t (List.mem_cons_self ..)
      simp only [List.length_cons] at hi
      omega
    have hsize : ByteArray.empty.size = 0 := rfl
    simp only [List.map_cons, List.cons_append, readLoop, if_neg ht, decodeUtf8_empty,
      String.append_empty, hrsp, Bool.false_eq_true, if_false, hsize, if_true]
    rw [ih (fun u hu => hidle u (List.mem_cons_of_mem _ hu))
      (by simp only [List.length_cons] at hi; omega)]
    simp only [List.length_cons]
    congr 1
    omega

/-- One arrival: its chunk is decoded by itself, and a closing brace ends the reading. -/
theorem readLoop_arrival {deadline : Int} {rsp : String} (hrsp : endsFrame rsp = false)
    (turns : List Turn) {a : Arrival} (ha : a.Prompt deadline) :
    readLoop deadline (a.turns ++ turns) 0 rsp =
      match decodeUtf8 a.chunk with
      | none => some ⟨none, .SERIAL_DECODE_ERR⟩
      | some text =>
        if endsFrame (rsp ++ text) then some (closeFrame (rsp ++ text))
        else readLoop deadline turns 0 (rsp ++ text) := by
  have hclock : ¬ (retries ≤ 0 + a.idle.length ∨ deadline ≤ a.clock) := by
    have := ha.patient
    have := ha.clock
    omega
  rw [Arrival.turns, List.append_assoc,
    readLoop_idle hrsp _ ha.idle (by have := ha.patient; omega)]
  cases hchunk : decodeUtf8 a.chunk with
  | none => simp only [List.singleton_append, readLoop, if_neg hclock, hchunk]
  | some text =>
    simp only [List.singleton_append, readLoop, if_neg hclock, if_neg ha.nonempty, hchunk]

/-- The texts of frames begin and end with a brace, as those of JSON objects do. -/
structure Framed (text : String) : Prop where
  opening : startsFrame text = true
  closing : endsFrame text = true

/-- A cut that the reader gets over: it falls between two characters, and the text before it
does not end with a closing brace. -/
def GoodCut (text : String) (before : ByteArray) : Prop :=
  ∃ front back, text = front ++ back ∧ front.toByteArray = before ∧ endsFrame front = false

/-- What follows a text inside the bytes of another text is a text. -/
theorem isValidUTF8_of_append (cs : List Char) (tail : ByteArray)
    (h : (cs.utf8Encode ++ tail).IsValidUTF8) : tail.IsValidUTF8 := by
  induction cs with
  | nil => simpa using h
  | cons c cs ih =>
    rw [← List.singleton_append, List.utf8Encode_append, ByteArray.append_assoc,
      ByteArray.isValidUTF8_utf8Encode_singleton_append_iff] at h
    exact ih h

theorem exists_back {front text : String} {tail : ByteArray}
    (h : front.toByteArray ++ tail = text.toByteArray) :
    ∃ back, text = front ++ back ∧ back.toByteArray = tail := by
  have hvalid : tail.IsValidUTF8 := by
    apply isValidUTF8_of_append front.toList
    rw [String.utf8Encode_toList, h]
    exact text.isValidUTF8
  refine ⟨String.fromUTF8 tail hvalid, ?_, rfl⟩
  rw [← String.toByteArray_inj, String.toByteArray_append, ← h]
  rfl

/-- Closing a frame never makes it longer. -/
theorem closeFrame_length {rsp text : String} (h : closeFrame rsp = ⟨some text, .NO_ERR⟩) :
    text.toList.length ≤ rsp.toList.length := by
  unfold closeFrame at h
  split at h
  · cases h
    exact Nat.le_refl _
  · have hlength := (List.dropWhile_suffix (l := rsp.toList) (fun c => c != '{')).length_le
    cases hframe : rsp.toList.dropWhile (fun c => c != '{') with
    | nil => simp [hframe] at h
    | cons c cs =>
      simp only [hframe, Reading.mk.injEq, Option.some.injEq, and_true] at h
      rw [← h, String.toList_ofList, ← hframe]
      exact hlength

theorem closeFrame_framed {text : String} (h : startsFrame text = true) :
    closeFrame text = ⟨some text, .NO_ERR⟩ := by
  simp [closeFrame, h]

/-- A frame that is closed before its last bytes is returned too short. -/
theorem closeFrame_early {front text : String} {tail : ByteArray}
    (h : front.toByteArray ++ tail = text.toByteArray) (htail : tail.size ≠ 0) :
    closeFrame front ≠ ⟨some text, .NO_ERR⟩ := by
  intro hclosed
  obtain ⟨back, rfl, rfl⟩ := exists_back h
  have hlength := closeFrame_length hclosed
  rw [String.toList_append, List.length_append] at hlength
  have hnil : back.toList = [] := List.eq_nil_of_length_eq_zero (by omega)
  have hempty : back = "" := by
    rw [← String.toList_inj, hnil, String.toList_empty]
  rw [hempty] at htail
  exact htail rfl

/-- What is left of a text is decoded. -/
theorem decodeUtf8_back {rsp text : String} {chunk : ByteArray}
    (h : rsp.toByteArray ++ chunk = text.toByteArray) :
    ∃ t, decodeUtf8 chunk = some t ∧ text = rsp ++ t := by
  obtain ⟨t, htext, hchunk⟩ := exists_back h
  exact ⟨t, decodeUtf8_eq_some.mpr hchunk, htext⟩

/-- The chunk before a good cut is decoded and leaves the frame open. -/
theorem GoodCut.decodes {rsp text : String} {chunk : ByteArray}
    (h : GoodCut text (rsp.toByteArray ++ chunk)) :
    ∃ t, decodeUtf8 chunk = some t ∧ endsFrame (rsp ++ t) = false := by
  obtain ⟨front, back, -, hfront, hopen⟩ := h
  obtain ⟨t, ht, rfl⟩ := decodeUtf8_back hfront.symm
  exact ⟨t, ht, hopen⟩

/-- The first cut of a list, and the cuts of the rest. -/
theorem forall_cuts_cons {P : List α → Prop} {a : α} {l : List α} (hne : l ≠ []) :
    (∀ before after, a :: l = before ++ after → before ≠ [] → after ≠ [] → P before) ↔
      P [a] ∧ ∀ before after, l = before ++ after → before ≠ [] → after ≠ [] →
        P (a :: before) := by
  constructor
  · intro h
    refine ⟨h [a] l rfl (List.cons_ne_nil _ _) hne, ?_⟩
    rintro before after rfl - hafter
    exact h (a :: before) after rfl (List.cons_ne_nil _ _) hafter
  · rintro ⟨hfirst, hrest⟩ before after hsplit hbefore hafter
    obtain ⟨b, before, rfl⟩ := List.exists_cons_of_ne_nil hbefore
    obtain ⟨rfl, hl⟩ := List.cons.inj hsplit
    by_cases hnone : before = []
    · rw [hnone]
      exact hfirst
    · exact hrest before after hl hnone hafter

theorem received_size {arrivals : List Arrival} (hne : arrivals ≠ [])
    (hprompt : ∀ a ∈ arrivals, a.Prompt deadline) : (received arrivals).size ≠ 0 := by
  obtain ⟨a, rest, rfl⟩ := List.exists_cons_of_ne_nil hne
  have ha := (hprompt a List.mem_cons_self).nonempty
  rw [received, ByteArray.size_append]
  omega

/-- The loop returns the whole frame exactly when every cut that is still to come is good. -/
theorem readLoop_frame_iff {deadline : Int} {text : String} (hframe : Framed text)
    (rest : List Turn) {arrivals : List Arrival} (hne : arrivals ≠ [])
    (hprompt : ∀ a ∈ arrivals, a.Prompt deadline) {rsp : String} (hrsp : endsFrame rsp = false)
    (hbytes : rsp.toByteArray ++ received arrivals = text.toByteArray) :
    readLoop deadline (arrivals.flatMap Arrival.turns ++ rest) 0 rsp = some ⟨some text, .NO_ERR⟩ ↔
      ∀ before after, arrivals = before ++ after → before ≠ [] → after ≠ [] →
        GoodCut text (rsp.toByteArray ++ received before) := by
  induction arrivals generalizing rsp with
  | nil => exact absurd rfl hne
  | cons a arrivals ih =>
    have ha := hprompt a (List.mem_cons_self ..)
    have hlater : ∀ b ∈ arrivals, b.Prompt deadline := fun b hb =>
      hprompt b (List.mem_cons_of_mem _ hb)
    rw [List.flatMap_cons, List.append_assoc, readLoop_arrival hrsp _ ha]
    rw [received, ← ByteArray.append_assoc] at hbytes
    by_cases hlast : arrivals = []
    · -- the last chunk completes the frame
      subst hlast
      have hall : rsp.toByteArray ++ a.chunk = text.toByteArray := by
        simpa [received] using hbytes
      obtain ⟨t, hdecode, htext⟩ := decodeUtf8_back hall
      simp only [hdecode, ← htext, hframe.closing, if_true, closeFrame_framed hframe.opening]
      refine iff_of_true trivial ?_
      intro before after hsplit hbefore hafter
      have hlength := congrArg List.length hsplit
      have := List.length_pos_iff.mpr hbefore
      have := List.length_pos_iff.mpr hafter
      simp only [List.length_append, List.length_cons, List.length_nil] at hlength
      omega
    · have hone : received [a] = a.chunk := by simp [received]
      rw [forall_cuts_cons hlast, hone]
      cases hdecode : decodeUtf8 a.chunk with
      | none =>
        refine iff_of_false (by simp) fun h => ?_
        obtain ⟨t, ht, -⟩ := h.1.decodes
        rw [ht] at hdecode
        cases hdecode
      | some t =>
        have ht : (rsp ++ t).toByteArray = rsp.toByteArray ++ a.chunk := by
          rw [String.toByteArray_append, decodeUtf8_eq_some.mp hdecode]
        rw [← ht] at hbytes ⊢
        cases hend : endsFrame (rsp ++ t) with
        | true =>
          simp only [hend, if_true]
          refine iff_of_false (fun h => ?_) fun h => ?_
          · exact closeFrame_early hbytes (received_size hlast hlater) (Option.some.inj h)
          · obtain ⟨t', ht', hopen⟩ := (ht ▸ h.1).decodes
            rw [hdecode] at ht'
            cases ht'
            rw [hend] at hopen
            cases hopen
        | false =>
          simp only [hend, Bool.false_eq_true, if_false]
          obtain ⟨back, htext, -⟩ := exists_back hbytes
          have hfirst : GoodCut text (rsp ++ t).toByteArray := ⟨rsp ++ t, back, htext, rfl, hend⟩
          rw [ih hlast hlater hend hbytes, and_iff_right hfirst]
          simp only [received, ht, ByteArray.append_assoc]

/-- A frame that arrives promptly in pieces is returned, decoded and without an error, exactly
when every cut between two pieces is a good one. -/
theorem readSerial_frame_iff {deadline : Int} {text : String} (hframe : Framed text)
    {arrivals : List Arrival} (hbytes : received arrivals = text.toByteArray)
    (hprompt : ∀ a ∈ arrivals, a.Prompt deadline) (rest : List Turn) :
    readSerial true deadline (arrivals.flatMap Arrival.turns ++ rest) =
        some ⟨some text, .NO_ERR⟩ ↔
      ∀ before after, arrivals = before ++ after → before ≠ [] → after ≠ [] →
        GoodCut text (received before) := by
  have hne : arrivals ≠ [] := by
    rintro rfl
    have htext : text = "" := by
      rw [← String.toByteArray_inj, ← hbytes]
      rfl
    have := hframe.opening
    simp [htext, startsFrame] at this
  have hempty : "".toByteArray = ByteArray.empty := rfl
  have hstart : endsFrame "" = false := by simp [endsFrame]
  have h := readLoop_frame_iff hframe rest hne hprompt hstart (by simpa [hempty] using hbytes)
  simpa [readSerial, hempty] using h

def inTwo (front back : String) : List Arrival :=
  [⟨[], 0, front.toByteArray⟩, ⟨[1, 2], 3, back.toByteArray⟩]

theorem inTwo_received (front back : String) :
    received (inTwo front back) = (front ++ back).toByteArray := by
  simp [inTwo, received, String.toByteArray_append]

theorem inTwo_prompt {front back : String} (hfront : front ≠ "") (hback : back ≠ "") :
    ∀ a ∈ inTwo front back, a.Prompt 10 := by
  have hsize : ∀ s : String, s ≠ "" → s.toByteArray.size ≠ 0 := by
    intro s hs hzero
    exact hs (String.utf8ByteSize_eq_zero_iff.mp hzero)
  intro a ha
  simp only [inTwo, List.mem_cons, List.not_mem_nil, or_false] at ha
  rcases ha with rfl | rfl
  · exact ⟨hsize front hfront, by simp [retries], by simp, by simp⟩
  · exact ⟨hsize back hback, by simp [retries], by simp, by simp⟩

/-- A frame in two pieces has one cut. -/
theorem inTwo_split {front back : String} {before after : List Arrival}
    (h : inTwo front back = before ++ after) (hbefore : before ≠ []) (hafter : after ≠ []) :
    received before = front.toByteArray := by
  obtain ⟨a, before, rfl⟩ := List.exists_cons_of_ne_nil hbefore
  obtain ⟨rfl, hrest⟩ := List.cons.inj h
  cases before with
  | nil => simp [received]
  | cons b before =>
    have hnone : [] = before ++ after := (List.cons.inj hrest).2
    exact absurd (List.append_eq_nil_iff.mp hnone.symm).2 hafter

def flatFront : String := "\x7b\"a\":"

def flatBack : String := "1\x7d"

theorem readSerial_flatFrame :
    readSerial true 10 ((inTwo flatFront flatBack).flatMap Arrival.turns ++ []) =
      some ⟨some (flatFront ++ flatBack), .NO_ERR⟩ := by
  refine (readSerial_frame_iff ⟨by decide, by decide⟩ (inTwo_received _ _)
    (inTwo_prompt (by decide) (by decide)) []).mpr ?_
  intro before after hsplit hbefore hafter
  exact ⟨flatFront, flatBack, rfl, (inTwo_split hsplit hbefore hafter).symm, by decide⟩

def nestedFront : String := "\x7b\"a\":\x7b\x7d"

def nestedBack : String := "\x7d"

/-- The frame of a nested object, cut between its two closing braces, is returned without the
last one. -/
theorem readSerial_nestedFrame :
    Framed (nestedFront ++ nestedBack) ∧
    received (inTwo nestedFront nestedBack) = (nestedFront ++ nestedBack).toByteArray ∧
    (∀ a ∈ inTwo nestedFront nestedBack, a.Prompt 10) ∧
    readSerial true 10 ((inTwo nestedFront nestedBack).flatMap Arrival.turns) ≠
      some ⟨some (nestedFront ++ nestedBack), .NO_ERR⟩ := by
  refine ⟨⟨by decide, by decide⟩, inTwo_received _ _, inTwo_prompt (by decide) (by decide), ?_⟩
  have hread : readSerial true 10 ((inTwo nestedFront nestedBack).flatMap Arrival.turns) =
      some (closeFrame nestedFront) := by
    have hend : endsFrame nestedFront = true := by decide
    simp [inTwo, Arrival.turns, readSerial, readLoop, retries, hend]
  rw [hread]
  decide

end NexyGateway.Rs232Handler
