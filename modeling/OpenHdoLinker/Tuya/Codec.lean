import OpenHdoLinker.Tuya.Frame
import OpenHdoLinker.Lib.PyStream

/-!
# The 55AA frame codec

`parse_frame` undoes `_frame_bytes` and accepts nothing else, so a frame has one
encoding; its length field tells `_read_frame` where it ends, so frames can be
read one after the other from a stream, however its bytes are chunked.

    parseFrame data = f ↔ f is encodable and data = f.bytes          (parseFrame_eq_ok_iff)
    the bytes of fs on a stream → readFrames fs.length reads fs       (readFrames_bytes)
-/

namespace Linker

open Py

/-! ## Algorithm -/

section Algorithm

variable (C : TuyaCrypto) (version : ProtocolVersion) (integrityKey : Bytes)

/-- The bytes of a frame on the wire. -/
def TuyaFrame.bytes (f : TuyaFrame) : Bytes :=
  frameBytes C f.sequence f.command f.payload version integrityKey

/-- `_read_frame(reader, protocol_version, integrity_key)`. -/
def readFrame : PyM StreamReader TuyaFrame := do
  let header ← StreamReader.readexactly 16
  if header.take 4 ≠ beBytes 4 framePrefix then
    PyM.raise (tuyaProtocolError "invalid Tuya frame prefix")
  else
    let length := beNat (slice header 12 16)
    if length > 1024 * 1024 then PyM.raise (tuyaProtocolError "Tuya frame exceeds 1 MiB")
    else do
      let rest ← StreamReader.readexactly length
      PyM.outcome (parseFrame C (header ++ rest) version integrityKey)

/-- `_read_frame`, called again and again. -/
def readFrames : Nat → PyM StreamReader (List TuyaFrame)
  | 0 => pure []
  | n + 1 => do
    let f ← readFrame C version integrityKey
    let fs ← readFrames n
    pure (f :: fs)

end Algorithm

/-! ## Statement -/

/-- The numbers of a frame fit their fields, and its length is within 1 MiB. -/
structure TuyaFrame.Encodable (version : ProtocolVersion) (f : TuyaFrame) : Prop where
  sequence : f.sequence < 2 ^ 32
  command : f.command < 2 ^ 32
  length : f.payload.length + trailerSize version ≤ 1024 * 1024

/-! ## Lemmas -/

section Slices

variable {data : Bytes}

theorem slice_append {before mid after : Bytes} {start stop : Nat}
    (h : data = before ++ (mid ++ after)) (hstart : before.length = start)
    (hstop : start + mid.length = stop) : slice data start stop = mid := by
  subst h hstart hstop
  unfold slice
  rw [← List.append_assoc, List.take_left' List.length_append, List.drop_left]

theorem slice_append_slice {start mid stop : Nat} (h₁ : start ≤ mid) (h₂ : mid ≤ stop)
    (h₃ : mid ≤ data.length) : slice data start mid ++ slice data mid stop = slice data start stop := by
  have hmid : data.take mid = (data.take stop).take mid := by
    rw [List.take_take, Nat.min_eq_left h₂]
  have hlen : start ≤ ((data.take stop).take mid).length := by
    rw [List.length_take, List.length_take]
    omega
  unfold slice
  rw [hmid, ← List.drop_append_of_le_length hlen, List.take_append_drop]

theorem length_slice {start stop : Nat} (h : stop ≤ data.length) :
    (slice data start stop).length = stop - start := by
  unfold slice
  rw [List.length_drop, List.length_take]
  omega

theorem take_slice {start stop n : Nat} (h : start + n ≤ stop) :
    (slice data start stop).take n = slice data start (start + n) := by
  unfold slice
  rw [List.take_drop, List.take_take, Nat.min_eq_left h]

theorem slice_length {start : Nat} : slice data start data.length = data.drop start := by
  unfold slice
  rw [List.take_length]

/-- Four bytes are the word they stand for. -/
theorem slice_word {start stop n : Nat} (h : n = beNat (slice data start stop))
    (hstop : stop ≤ data.length) (hfour : stop - start = 4) : slice data start stop = beBytes 4 n := by
  rw [h]
  exact eq_beBytes (by rw [length_slice hstop, hfour])

theorem slice_word_lt {start stop n : Nat} (h : n = beNat (slice data start stop))
    (hstop : stop ≤ data.length) (hfour : stop - start = 4) : n < 2 ^ 32 := by
  have hlt := beNat_lt (slice data start stop)
  rwa [length_slice hstop, hfour, ← h] at hlt

/-- The four words of the header and what follows them. -/
theorem take_fields {stop : Nat} (hdata : 16 ≤ data.length) (hstop : 16 ≤ stop) :
    data.take 4 ++ slice data 4 8 ++ slice data 8 12 ++ slice data 12 16 ++ slice data 16 stop =
      data.take stop := by
  show slice data 0 4 ++ _ ++ _ ++ _ ++ _ = slice data 0 stop
  rw [slice_append_slice (by omega) (by omega) (by omega),
    slice_append_slice (by omega) (by omega) (by omega),
    slice_append_slice (by omega) (by omega) (by omega),
    slice_append_slice (by omega) (by omega) (by omega)]

end Slices

section Codec

variable (C : TuyaCrypto) (version : ProtocolVersion) (integrityKey : Bytes)

theorem length_integrity (signed : Bytes) :
    (integrity C version integrityKey signed).length + 4 = trailerSize version := by
  unfold integrity trailerSize
  split
  · rw [C.length_hmacSha256]
  · rw [length_beBytes]

theorem trailerSize_ge : 8 ≤ trailerSize version := by
  unfold trailerSize
  split <;> omega

variable {C version integrityKey}

/-- What `parse_frame` checks of a frame of the right length. -/
theorem integrity_check {f : TuyaFrame} {trailer signed : Bytes}
    (hlen : trailer.length = trailerSize version) :
    (if version = .v34 then
        if trailer.take 32 ≠ C.hmacSha256 integrityKey signed then
          .error (tuyaProtocolError "Tuya frame HMAC verification failed")
        else Except.ok f
      else if beNat (trailer.take 4) ≠ C.crc32 signed then
        .error (tuyaProtocolError "Tuya frame CRC verification failed")
      else .ok f) =
    if trailer.take (trailerSize version - 4) = integrity C version integrityKey signed then .ok f
    else if version = .v34 then .error (tuyaProtocolError "Tuya frame HMAC verification failed")
    else .error (tuyaProtocolError "Tuya frame CRC verification failed") := by
  by_cases hv : version = .v34
  · have hsize : trailerSize version - 4 = 32 := by rw [trailerSize, if_pos hv]
    rw [if_pos hv, if_pos hv, hsize, integrity, if_pos hv, ite_not]
  · have hsize : trailerSize version = 8 := by rw [trailerSize, if_neg hv]
    have h4 : (trailer.take 4).length = 4 := by
      rw [List.length_take, hlen, hsize]
      rfl
    have hcrc : beNat (trailer.take 4) = C.crc32 signed ↔
        trailer.take 4 = beBytes 4 (C.crc32 signed) := by
      constructor
      · intro h
        rw [← h]
        exact eq_beBytes h4
      · intro h
        rw [h]
        exact beNat_beBytes 4 _ (C.crc32_lt signed)
    rw [if_neg hv, if_neg hv, hsize, integrity, if_neg hv, ite_not]
    simp only [hcrc]

variable (C version integrityKey)

/-- The signed part of a frame. -/
def TuyaFrame.signed (version : ProtocolVersion) (f : TuyaFrame) : Bytes :=
  beBytes 4 framePrefix ++ beBytes 4 f.sequence ++ beBytes 4 f.command ++
    beBytes 4 (f.payload.length + trailerSize version) ++ f.payload

theorem TuyaFrame.bytes_eq (f : TuyaFrame) : f.bytes C version integrityKey =
    f.signed version ++ (integrity C version integrityKey (f.signed version) ++
      beBytes 4 frameSuffix) := List.append_assoc _ _ _

theorem TuyaFrame.length_signed (f : TuyaFrame) :
    (f.signed version).length = 16 + f.payload.length := by
  unfold TuyaFrame.signed
  simp only [List.length_append, length_beBytes]

theorem TuyaFrame.length_bytes (f : TuyaFrame) :
    (f.bytes C version integrityKey).length = 16 + (f.payload.length + trailerSize version) := by
  have hint := length_integrity C version integrityKey (f.signed version)
  rw [TuyaFrame.bytes_eq, List.length_append, List.length_append, f.length_signed version,
    length_beBytes]
  omega

/-- Where the fields of a frame are on the wire. -/
structure TuyaFrame.Layout (C : TuyaCrypto) (version : ProtocolVersion) (integrityKey : Bytes)
    (f : TuyaFrame) (data : Bytes) : Prop where
  length : data.length = 16 + (f.payload.length + trailerSize version)
  framePrefix : data.take 4 = beBytes 4 framePrefix
  frameSuffix : last4 data = beBytes 4 frameSuffix
  sequence : slice data 4 8 = beBytes 4 f.sequence
  command : slice data 8 12 = beBytes 4 f.command
  size : slice data 12 16 = beBytes 4 (f.payload.length + trailerSize version)
  payload : slice data 16 (16 + f.payload.length) = f.payload
  signed : data.take (16 + f.payload.length) = f.signed version
  integrity : slice data (16 + f.payload.length) (12 + (f.payload.length + trailerSize version)) =
    integrity C version integrityKey (f.signed version)

theorem TuyaFrame.layout (f : TuyaFrame) :
    f.Layout C version integrityKey (f.bytes C version integrityKey) := by
  have hint := length_integrity C version integrityKey (f.signed version)
  have hlen := f.length_bytes C version integrityKey
  have hsig := f.length_signed version
  have htrailer := trailerSize_ge version
  -- the frame as one right-nested concatenation of its fields
  have hdata : f.bytes C version integrityKey = beBytes 4 Linker.framePrefix ++ (beBytes 4 f.sequence ++
      (beBytes 4 f.command ++ (beBytes 4 (f.payload.length + trailerSize version) ++ (f.payload ++
        (Linker.integrity C version integrityKey (f.signed version) ++ beBytes 4 Linker.frameSuffix))))) := by
    rw [f.bytes_eq]
    conv => lhs; arg 1; unfold TuyaFrame.signed
    simp only [List.append_assoc]
  have h8 := hdata.trans (List.append_assoc _ _ _).symm
  have h12 := h8.trans (List.append_assoc _ _ _).symm
  have h16 := h12.trans (List.append_assoc _ _ _).symm
  have hsigned := f.bytes_eq C version integrityKey
  refine ⟨hlen, ?_, ?_, ?_, ?_, ?_, ?_, ?_, ?_⟩
  · rw [hdata, List.take_left' (length_beBytes _ _)]
  · unfold last4
    rw [hlen, hsigned, ← List.append_assoc]
    refine List.drop_left' ?_
    rw [List.length_append, hsig]
    omega
  · exact slice_append hdata (length_beBytes _ _) (by rw [length_beBytes])
  · exact slice_append h8 (by simp only [List.length_append, length_beBytes]) (by rw [length_beBytes])
  · exact slice_append h12 (by simp only [List.length_append, length_beBytes]) (by rw [length_beBytes])
  · exact slice_append h16 (by simp only [List.length_append, length_beBytes]) rfl
  · rw [hsigned, List.take_left' hsig]
  · exact slice_append hsigned hsig (by omega)

variable {C version integrityKey}

/-- A byte string laid out like a frame is the frame's encoding. -/
theorem TuyaFrame.Layout.eq_bytes {f : TuyaFrame} {data : Bytes}
    (h : f.Layout C version integrityKey data) : data = f.bytes C version integrityKey := by
  have htrailer := trailerSize_ge version
  have hlen := h.length
  have hsuffix : data.drop (12 + (f.payload.length + trailerSize version)) =
      beBytes 4 Linker.frameSuffix := by
    rw [← h.frameSuffix, last4]
    congr 1
    omega
  calc data = data.take (16 + f.payload.length) ++ data.drop (16 + f.payload.length) :=
        (List.take_append_drop _ _).symm
    _ = f.signed version ++ (slice data (16 + f.payload.length)
          (12 + (f.payload.length + trailerSize version)) ++
        slice data (12 + (f.payload.length + trailerSize version)) data.length) := by
      rw [h.signed, slice_append_slice (by omega) (by omega) (by omega), slice_length]
    _ = f.bytes C version integrityKey := by
      rw [h.integrity, slice_length, hsuffix, f.bytes_eq]

/-- A laid out frame is accepted. -/
theorem TuyaFrame.Layout.parse {f : TuyaFrame} {data : Bytes} (h : f.Layout C version integrityKey data)
    (hf : f.Encodable version) : parseFrame C data version integrityKey = .ok f := by
  have htrailer := trailerSize_ge version
  have hlen := h.length
  have hword : ∀ n, n < 2 ^ 32 → beNat (beBytes 4 n) = n := fun n hn => beNat_beBytes 4 n hn
  have hsequence : beNat (slice data 4 8) = f.sequence := by
    rw [h.sequence, hword _ hf.sequence]
  have hcommand : beNat (slice data 8 12) = f.command := by rw [h.command, hword _ hf.command]
  have hlimit := hf.length
  have hsize : beNat (slice data 12 16) = f.payload.length + trailerSize version := by
    rw [h.size, hword _ (by omega)]
  have hend : 16 + (f.payload.length + trailerSize version) - trailerSize version =
      16 + f.payload.length := by omega
  have hstop : 16 + f.payload.length + trailerSize version = data.length := by omega
  have hcheck : (slice data (16 + f.payload.length) data.length).take (trailerSize version - 4) =
      Linker.integrity C version integrityKey (f.signed version) := by
    rw [← h.integrity, take_slice (by omega)]
    congr 1
    omega
  unfold parseFrame
  dsimp only
  rw [if_neg, hsize, if_neg, if_neg (by omega), hend, hstop, integrity_check, h.signed, if_pos hcheck,
    hsequence, hcommand, h.payload]
  · rw [length_slice (le_refl _)]
    omega
  · rintro (hbad | hbad)
    · omega
    · exact hbad hlen
  · rintro (hbad | hbad | hbad)
    · omega
    · exact hbad h.framePrefix
    · exact hbad h.frameSuffix

/-- What `parse_frame` has checked of data it accepts. -/
structure Checked (C : TuyaCrypto) (version : ProtocolVersion) (integrityKey : Bytes)
    (f : TuyaFrame) (data : Bytes) : Prop where
  framePrefix : data.take 4 = beBytes 4 framePrefix
  frameSuffix : last4 data = beBytes 4 frameSuffix
  limit : f.payload.length + trailerSize version ≤ 1024 * 1024
  length : data.length = 16 + (f.payload.length + trailerSize version)
  sequence : f.sequence = beNat (slice data 4 8)
  command : f.command = beNat (slice data 8 12)
  size : f.payload.length + trailerSize version = beNat (slice data 12 16)
  payload : slice data 16 (16 + f.payload.length) = f.payload
  integrity : (slice data (16 + f.payload.length) data.length).take (trailerSize version - 4) =
    integrity C version integrityKey (data.take (16 + f.payload.length))

theorem checked_of_parseFrame {data : Bytes} {f : TuyaFrame}
    (h : parseFrame C data version integrityKey = .ok f) : Checked C version integrityKey f data := by
  have htrailer := trailerSize_ge version
  unfold parseFrame at h
  dsimp only at h
  split at h
  · cases h
  · next hframe =>
    rw [not_or, not_or, not_not, not_not] at hframe
    obtain ⟨hmin, hhead, hsuffix⟩ := hframe
    split at h
    · cases h
    · next hsize =>
      rw [not_or, not_not] at hsize
      obtain ⟨hlimit, hlength⟩ := hsize
      split at h
      · cases h
      · next hroom =>
        generalize hN : beNat (slice data 12 16) = N at *
        have hend : 16 + N - trailerSize version + trailerSize version = data.length := by omega
        rw [hend, integrity_check (by rw [length_slice (le_refl _)]; omega)] at h
        split at h
        · next hcheck =>
          cases h
          have hpayload : (slice data 16 (16 + N - trailerSize version)).length =
              N - trailerSize version := by
            rw [length_slice (by omega)]
            omega
          have hstop : 16 + (slice data 16 (16 + N - trailerSize version)).length =
              16 + N - trailerSize version := by omega
          exact ⟨hhead, hsuffix, by dsimp only; omega, by dsimp only; omega, rfl, rfl,
            by dsimp only; omega, by dsimp only; rw [hstop], by dsimp only; rw [hstop]; exact hcheck⟩
        · split at h
          · cases h
          · cases h

/-- What is accepted is laid out like the frame that is returned. -/
theorem layout_of_parseFrame {data : Bytes} {f : TuyaFrame}
    (h : parseFrame C data version integrityKey = .ok f) :
    f.Encodable version ∧ f.Layout C version integrityKey data := by
  have hc := checked_of_parseFrame h
  have htrailer := trailerSize_ge version
  have hlength := hc.length
  have hsequence : slice data 4 8 = beBytes 4 f.sequence :=
    slice_word hc.sequence (by omega) rfl
  have hcommand : slice data 8 12 = beBytes 4 f.command :=
    slice_word hc.command (by omega) rfl
  have hsize : slice data 12 16 = beBytes 4 (f.payload.length + trailerSize version) :=
    slice_word hc.size (by omega) rfl
  have hsigned : data.take (16 + f.payload.length) = f.signed version := by
    rw [← take_fields (by omega) (by omega), hc.framePrefix, hsequence, hcommand, hsize, hc.payload]
    rfl
  refine ⟨⟨slice_word_lt hc.sequence (by omega) rfl, slice_word_lt hc.command (by omega) rfl,
    hc.limit⟩, ⟨hlength, hc.framePrefix, hc.frameSuffix, hsequence, hcommand, hsize, hc.payload,
    hsigned, ?_⟩⟩
  · rw [← hsigned, ← hc.integrity, take_slice (by omega)]
    congr 1
    omega

/-- **Exact codec.** -/
theorem parseFrame_eq_ok_iff {data : Bytes} {f : TuyaFrame} :
    parseFrame C data version integrityKey = .ok f ↔
      f.Encodable version ∧ data = f.bytes C version integrityKey := by
  constructor
  · intro h
    obtain ⟨henc, hlayout⟩ := layout_of_parseFrame h
    exact ⟨henc, hlayout.eq_bytes⟩
  · rintro ⟨henc, rfl⟩
    exact (f.layout C version integrityKey).parse henc

/-- The length field tells where a frame ends. -/
theorem readFrame_bytes {f : TuyaFrame} (hf : f.Encodable version) {r : StreamReader} {rest : Bytes}
    (h : r.pending = f.bytes C version integrityKey ++ rest) :
    ∃ r', readFrame C version integrityKey r = (.ok f, r') ∧ r'.pending = rest := by
  have hlay := f.layout C version integrityKey
  generalize f.bytes C version integrityKey = data at h hlay
  have hlen := hlay.length
  have hlimit := hf.length
  have hsize : beNat (slice (data.take 16) 12 16) = f.payload.length + trailerSize version := by
    have hslice : slice (data.take 16) 12 16 = slice data 12 16 := by
      unfold slice
      rw [List.take_take, Nat.min_self]
    rw [hslice, hlay.size]
    exact beNat_beBytes 4 _ (by omega)
  have hprefix : (data.take 16).take 4 = beBytes 4 framePrefix := by
    rw [List.take_take]
    exact hlay.framePrefix
  have hsplit : r.pending = data.take 16 ++ (data.drop 16 ++ rest) := by
    rw [← List.append_assoc, List.take_append_drop, h]
  have hhead : (data.take 16).length = 16 := by
    rw [List.length_take]
    omega
  obtain ⟨r₁, hread₁, hpending₁⟩ := StreamReader.readexactly_append hsplit hhead
  have htail : (data.drop 16).length = f.payload.length + trailerSize version := by
    rw [List.length_drop]
    omega
  obtain ⟨r₂, hread₂, hpending₂⟩ := StreamReader.readexactly_append hpending₁ htail
  refine ⟨r₂, ?_, hpending₂⟩
  unfold readFrame
  rw [PyM.bind_ok hread₁]
  dsimp only
  rw [if_neg (not_not.mpr hprefix), hsize, if_neg (by omega), PyM.bind_ok hread₂,
    List.take_append_drop, hlay.parse hf]
  rfl

theorem readFrames_bytes {fs : List TuyaFrame} (hfs : ∀ f ∈ fs, f.Encodable version)
    {r : StreamReader} {rest : Bytes}
    (h : r.pending = fs.flatMap (fun f => f.bytes C version integrityKey) ++ rest) :
    ∃ r', readFrames C version integrityKey fs.length r = (.ok fs, r') ∧ r'.pending = rest := by
  induction fs generalizing r with
  | nil => exact ⟨r, rfl, h⟩
  | cons f fs ih =>
    rw [List.flatMap_cons, List.append_assoc] at h
    obtain ⟨r₁, hread, hpending⟩ := readFrame_bytes (hfs f List.mem_cons_self) h
    obtain ⟨r₂, hreads, hrest⟩ := ih (fun g hg => hfs g (List.mem_cons_of_mem f hg)) hpending
    refine ⟨r₂, ?_, hrest⟩
    rw [List.length_cons, readFrames, PyM.bind_ok hread, PyM.bind_ok hreads]
    rfl

end Codec

/-! ## Main result -/

/-- **The frame codec is exact and self-delimiting.**  Encodable frames survive encoding and
parsing, only encodings are accepted, and a stream of encodings is read back frame by frame to
its end. -/
theorem frame_codec_exact (C : TuyaCrypto) (version : ProtocolVersion) (integrityKey : Bytes) :
    (∀ f : TuyaFrame, f.Encodable version →
      parseFrame C (frameBytes C f.sequence f.command f.payload version integrityKey) version
        integrityKey = .ok f) ∧
    (∀ data f, parseFrame C data version integrityKey = .ok f →
      data = frameBytes C f.sequence f.command f.payload version integrityKey) ∧
    ∀ (fs : List TuyaFrame) (chunks : List Bytes), (∀ f ∈ fs, f.Encodable version) →
      chunks.flatten = fs.flatMap (fun f => f.bytes C version integrityKey) →
      ∃ r, readFrames C version integrityKey fs.length (.ofChunks chunks) = (.ok fs, r) ∧
        r.pending = [] := by
  refine ⟨?_, ?_, ?_⟩
  · intro f hf
    exact (f.layout C version integrityKey).parse hf
  · intro data f h
    exact (parseFrame_eq_ok_iff.mp h).2
  · intro fs chunks hfs hchunks
    refine readFrames_bytes hfs ?_
    rw [List.append_nil, ← hchunks]
    rfl

/-- A status push and an empty reply. -/
def sampleFrames : List TuyaFrame := [⟨1, commandStatus, [5]⟩, ⟨2, commandDpQuery, []⟩]

theorem sampleFrames_encodable : ∀ f ∈ sampleFrames, f.Encodable .v33 := by
  intro f hf
  unfold sampleFrames at hf
  rcases List.mem_cons.mp hf with rfl | hf
  · exact ⟨by simp, by simp [commandStatus], by simp [trailerSize]⟩
  · rw [List.mem_singleton.mp hf]
    exact ⟨by simp, by simp [commandDpQuery], by simp [trailerSize]⟩

/-- Both frames survive, also when they arrive byte by byte. -/
theorem frame_codec_exact_byte_by_byte :
    (∀ f ∈ sampleFrames, parseFrame .plain
      (frameBytes .plain f.sequence f.command f.payload .v33 []) .v33 [] = .ok f) ∧
    ∃ r, readFrames .plain .v33 [] sampleFrames.length (.ofChunks
      ((sampleFrames.flatMap fun f => f.bytes .plain .v33 []).map fun b => [b])) =
      (.ok sampleFrames, r) ∧ r.pending = [] := by
  obtain ⟨hparse, -, hstream⟩ := frame_codec_exact .plain .v33 []
  refine ⟨fun f hf => hparse f (sampleFrames_encodable f hf),
    hstream sampleFrames _ sampleFrames_encodable ?_⟩
  rw [← List.flatMap_def, List.flatMap_singleton']

end Linker
