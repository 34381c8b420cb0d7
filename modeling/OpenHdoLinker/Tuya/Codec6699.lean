import OpenHdoLinker.Tuya.Announcements

/-!
# The 6699 frame codec

`_parse_6699` undoes `_frame_6699` and accepts nothing else.  The header leaves no
choice once the reserved field is zero and the lengths agree, and the cipher
accepts only what it encrypted under the header, so all that is free in an
accepted frame is its nonce.

    nonce of 12 bytes, f fits its fields → parse6699 (f.bytes6699 nonce) = f
    parse6699 data = f → data = f.bytes6699 (nonce6699 data)         (codec6699_exact)
-/

namespace Linker

open Py Announcements

/-! ## Statement -/

/-- `_frame_6699` of a frame's fields, with the nonce `os.urandom(12)` gave. -/
def TuyaFrame.bytes6699 (C : TuyaCrypto) (key nonce : Bytes) (f : TuyaFrame) : Bytes :=
  frame6699 C nonce f.sequence f.command f.payload key

/-- The numbers of a frame fit their fields. -/
structure TuyaFrame.Encodable6699 (f : TuyaFrame) : Prop where
  sequence : f.sequence < 2 ^ 32
  command : f.command < 2 ^ 32
  length : 12 + f.payload.length + 16 < 2 ^ 32

/-- The nonce of a frame on the wire, `encrypted[:12]`. -/
def nonce6699 (data : Bytes) : Bytes := slice data 18 30

/-! ## Lemmas -/

theorem drop_slice {data : Bytes} {start stop n : Nat} :
    (slice data start stop).drop n = slice data (start + n) stop := by
  unfold slice
  rw [List.drop_drop]

/-- The fields of a 6699 header. -/
theorem take_fields6699 {data : Bytes} (hdata : 18 ≤ data.length) :
    data.take 4 ++ (slice data 4 6 ++ (slice data 6 10 ++ (slice data 10 14 ++ slice data 14 18))) =
      data.take 18 := by
  show slice data 0 4 ++ _ = slice data 0 18
  rw [slice_append_slice (by omega) (by omega) (by omega),
    slice_append_slice (by omega) (by omega) (by omega),
    slice_append_slice (by omega) (by omega) (by omega),
    slice_append_slice (by omega) (by omega) (by omega)]

section Codec6699

variable {C : TuyaCrypto} {key data : Bytes} {f : TuyaFrame}

theorem nonce6699_bytes {nonce : Bytes} (hnonce : nonce.length = 12) :
    nonce6699 (f.bytes6699 C key nonce) = nonce := by
  unfold TuyaFrame.bytes6699 frame6699
  dsimp only
  rw [List.append_assoc, List.append_assoc]
  exact slice_append rfl (length_header6699 _ _ _) (by rw [hnonce])

/-- What `_parse_6699` has checked of data it accepts. -/
structure Checked6699 (C : TuyaCrypto) (key : Bytes) (f : TuyaFrame) (data : Bytes) : Prop where
  framePrefix : data.take 4 = beBytes 4 framePrefix6699
  frameSuffix : last4 data = beBytes 4 frameSuffix6699
  reserved : beNat (slice data 4 6) = 0
  sequence : f.sequence = beNat (slice data 6 10)
  command : f.command = beNat (slice data 10 14)
  size : 12 + f.payload.length + 16 = beNat (slice data 14 18)
  length : data.length = 18 + (12 + f.payload.length + 16) + 4
  encrypted : slice data 30 (18 + (12 + f.payload.length + 16)) =
    C.gcmEncrypt key (nonce6699 data) f.payload (slice data 4 18)

theorem checked_of_parse6699 (h : parse6699 C data key = .ok f) : Checked6699 C key f data := by
  unfold parse6699 at h
  dsimp only at h
  split at h
  · cases h
  · next hframe =>
    rw [not_or, not_or, not_not, not_not] at hframe
    obtain ⟨hmin, hhead, hsuffix⟩ := hframe
    split at h
    · cases h
    · next hsize =>
      rw [not_or, not_or, not_not, not_not] at hsize
      obtain ⟨hreserved, hroom, hlength⟩ := hsize
      generalize hN : beNat (slice data 14 18) = N at *
      split at h
      · next payload hdecrypt =>
        cases h
        -- the ciphertext is the encryption of the payload, which gives the payload's length
        have hencrypted := C.gcm_authentic _ _ _ _ _ hdecrypt
        rw [drop_slice, take_slice (by omega)] at hencrypted
        have hlen := congrArg List.length hencrypted
        rw [C.length_gcmEncrypt, length_slice (by omega)] at hlen
        have hN' : 12 + payload.length + 16 = N := by omega
        refine ⟨hhead, hsuffix, hreserved, rfl, rfl, ?_, ?_, ?_⟩
        · rw [hN, ← hN']
        · rw [hN']
          exact hlength
        · rw [hN']
          exact hencrypted
      · cases h

/-- The header is the one `_frame_6699` packs. -/
theorem Checked6699.header (h : Checked6699 C key f data) :
    data.take 18 = header6699 f.sequence f.command (12 + f.payload.length + 16) := by
  have hlen := h.length
  have hreserved : slice data 4 6 = beBytes 2 0 := by
    rw [← h.reserved]
    exact eq_beBytes (length_slice (by omega))
  have hsequence : slice data 6 10 = beBytes 4 f.sequence :=
    slice_word h.sequence (by omega) rfl
  have hcommand : slice data 10 14 = beBytes 4 f.command :=
    slice_word h.command (by omega) rfl
  have hsize : slice data 14 18 = beBytes 4 (12 + f.payload.length + 16) :=
    slice_word h.size (by omega) rfl
  rw [← take_fields6699 (by omega), h.framePrefix, hreserved, hsequence, hcommand, hsize]
  rfl

theorem Checked6699.encodable (h : Checked6699 C key f data) : f.Encodable6699 := by
  have hlen := h.length
  exact ⟨slice_word_lt h.sequence (by omega) rfl, slice_word_lt h.command (by omega) rfl,
    slice_word_lt h.size (by omega) rfl⟩

theorem Checked6699.length_nonce (h : Checked6699 C key f data) : (nonce6699 data).length = 12 := by
  have hlen := h.length
  exact length_slice (by omega)

/-- Checked data is the encoding of its frame. -/
theorem Checked6699.eq_bytes (h : Checked6699 C key f data) :
    data = f.bytes6699 C key (nonce6699 data) := by
  have hlen := h.length
  have hauthenticated : slice data 4 18 =
      (header6699 f.sequence f.command (12 + f.payload.length + 16)).drop 4 := by
    rw [← h.header]
    rfl
  have hsuffix : data.drop (18 + (12 + f.payload.length + 16)) = beBytes 4 frameSuffix6699 := by
    rw [← h.frameSuffix, last4]
    congr 1
    omega
  have hencrypted := h.encrypted
  rw [hauthenticated] at hencrypted
  calc data
    _ = slice data 0 18 ++ nonce6699 data ++ slice data 30 (18 + (12 + f.payload.length + 16)) ++
        slice data (18 + (12 + f.payload.length + 16)) data.length := by
      unfold nonce6699
      rw [slice_append_slice (by omega) (by omega) (by omega),
        slice_append_slice (by omega) (by omega) (by omega),
        slice_append_slice (by omega) (by omega) (by omega), slice_length]
      rfl
    _ = header6699 f.sequence f.command (12 + f.payload.length + 16) ++ nonce6699 data ++
        C.gcmEncrypt key (nonce6699 data) f.payload
          ((header6699 f.sequence f.command (12 + f.payload.length + 16)).drop 4) ++
        beBytes 4 frameSuffix6699 := by
      rw [hencrypted, slice_length, hsuffix, ← h.header]
      rfl
    _ = f.bytes6699 C key (nonce6699 data) := by
      unfold TuyaFrame.bytes6699 frame6699
      rw [h.length_nonce]

/-- **Exact codec.** -/
theorem parse6699_eq_ok_iff : parse6699 C data key = .ok f ↔
    f.Encodable6699 ∧ (nonce6699 data).length = 12 ∧ data = f.bytes6699 C key (nonce6699 data) := by
  constructor
  · intro h
    have hc := checked_of_parse6699 h
    exact ⟨hc.encodable, hc.length_nonce, hc.eq_bytes⟩
  · rintro ⟨hf, hnonce, hdata⟩
    rw [hdata]
    exact parse6699_frame6699 key hnonce hf.sequence hf.command hf.length

end Codec6699

/-! ## Main result -/

/-- **The 6699 codec is exact.**  What is framed with a nonce is parsed back, and what is parsed is
the frame that was returned, under the nonce in it. -/
theorem codec6699_exact (C : TuyaCrypto) (key : Bytes) :
    (∀ (nonce : Bytes) (f : TuyaFrame), nonce.length = 12 → f.Encodable6699 →
      nonce6699 (f.bytes6699 C key nonce) = nonce ∧
        parse6699 C (f.bytes6699 C key nonce) key = .ok f) ∧
    ∀ data f, parse6699 C data key = .ok f →
      f.Encodable6699 ∧ (nonce6699 data).length = 12 ∧
        data = f.bytes6699 C key (nonce6699 data) := by
  refine ⟨?_, ?_⟩
  · intro nonce f hnonce hf
    exact ⟨nonce6699_bytes hnonce,
      parse6699_frame6699 key hnonce hf.sequence hf.command hf.length⟩
  · intro data f h
    exact parse6699_eq_ok_iff.mp h

/-- A request for announcements without a payload, and one with an object. -/
def announcementRequests : List TuyaFrame :=
  [⟨0, commandRequestDeviceInfo, []⟩, ⟨7, commandRequestDeviceInfo, utf8 "\x7b\"from\":\"app\"\x7d"⟩]

theorem announcementRequests_encodable : ∀ f ∈ announcementRequests, f.Encodable6699 := by
  have hpayload : 12 + (utf8 "\x7b\"from\":\"app\"\x7d").length + 16 < 2 ^ 32 := by decide
  intro f hf
  unfold announcementRequests at hf
  rcases List.mem_cons.mp hf with rfl | hf
  · exact ⟨by decide, by decide, by decide⟩
  · rw [List.mem_singleton.mp hf]
    exact ⟨by decide, by decide, hpayload⟩

/-- Both go there and back, under the key of the announcements and the zero nonce. -/
theorem codec6699_exact_requests : ∀ f ∈ announcementRequests,
    parse6699 .plain (f.bytes6699 .plain (discoveryUdpKey .plain) (List.replicate 12 0))
        (discoveryUdpKey .plain) = .ok f ∧
      f.bytes6699 .plain (discoveryUdpKey .plain) (List.replicate 12 0) =
        f.bytes6699 .plain (discoveryUdpKey .plain) (nonce6699 (f.bytes6699 .plain
          (discoveryUdpKey .plain) (List.replicate 12 0))) := by
  intro f hf
  obtain ⟨hparse, hencode⟩ := codec6699_exact .plain (discoveryUdpKey .plain)
  have h := (hparse (List.replicate 12 0) f List.length_replicate
    (announcementRequests_encodable f hf)).2
  exact ⟨h, (hencode _ _ h).2.2⟩

end Linker
