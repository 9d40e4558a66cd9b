import LspClient.Proofs.Json.Accepted
import LspClient.Proofs.Rpc.Grammar

/-!
# What was accepted can be sent again

A reader takes more than a writer writes: members in any order, members nobody knows, keys that
stand twice, errors in the form of a list. But what it makes of them is a message that is read
back from its own frame. The value that was parsed has its objects in order and nests at most 127
deep (`fits_of_parse`), the payload of the message is a part of that value under as many levels
as it is written under again (`fits_payload`), and a result without an id is never read.
-/

namespace LspClient

open Json

/-! ## Parts of an envelope -/

/-- The data of an error stand one level below the error, in both of its forms. -/
theorem RpcError.fits_data {raw : Json} {e : RpcError} {d : Nat} (written : IsErrorObject raw e)
    (fits : raw.Fits d) : 1 ≤ d ∧ ∀ x, e.data = some x → x.Fits (d - 1) := by
  have shallow := fits.shallow
  cases written with
  | object code message data =>
    rw [depth] at shallow
    refine ⟨by omega, ?_⟩
    intro x hx
    exact fits.of_findMember? (data.trans hx)
  | pair code message =>
    rw [depth] at shallow
    refine ⟨by omega, ?_⟩
    intro x hx
    cases hx
  | triple code message data =>
    rw [depth] at shallow
    refine ⟨by omega, ?_⟩
    intro x hx
    cases hx
    exact fits.of_mem (by simp)

namespace Envelope

/-- The payload of an envelope that was read stands as many levels below it as it is written
below it. -/
theorem fits_payload {v : Json} {e : Envelope} {d : Nat} (shape : IsEnvelope v e)
    (fits : v.Fits d) : e.wrapping ≤ d ∧ ∀ x, e.payload = some x → x.Fits (d - e.wrapping) := by
  obtain ⟨members, rfl, -, shape⟩ := shape
  have shallow := fits.shallow
  rw [depth] at shallow
  cases shape with
  | notification => exact ⟨by simp only [wrapping]; omega, fun x hx => fits.of_findMember? hx⟩
  | request => exact ⟨by simp only [wrapping]; omega, fun x hx => fits.of_findMember? hx⟩
  | result uncalled own given noError =>
    refine ⟨by simp only [wrapping]; omega, ?_⟩
    intro x hx
    cases hx
    exact fits.of_findMember? given
  | failure uncalled own noResult given written =>
    -- one level for the envelope, and one for the error in it
    obtain ⟨deeper, data⟩ := RpcError.fits_data written (fits.of_findMember? given)
    refine ⟨by simp only [wrapping]; omega, ?_⟩
    intro x hx
    exact data x hx

theorem nesting_le {v : Json} {e : Envelope} {d : Nat} (shape : IsEnvelope v e)
    (fits : v.Fits d) : e.nesting ≤ d := by
  obtain ⟨around, payload⟩ := fits_payload shape fits
  unfold nesting
  cases passed : e.payload with
  | none => simpa using around
  | some x =>
    have shallow := (payload x passed).shallow
    simp only [Option.map_some, Option.getD_some]
    omega

theorem ne_noId_result {v : Json} {e : Envelope} (shape : IsEnvelope v e) (result : Json) :
    e ≠ .response ⟨none, .ok result⟩ := by
  obtain ⟨members, rfl, -, shape⟩ := shape
  intro same
  rw [same] at shape
  cases shape

/-! ## Frames -/

/-- A frame is decoded if it is parsed as a value that is an envelope. -/
theorem exists_of_decode {frame : Bytes} {e : Envelope} (h : decode frame = .ok e) :
    ∃ v, v.Fits 127 ∧ IsEnvelope v e := by
  unfold decode at h
  split at h
  · next v parsed =>
    have fits : v.Fits 127 := fits_of_parse parsed
    exact ⟨v, fits, (ofJson_eq_ok_iff fits.ordered).mp h⟩
  · cases h

/-- A message that is no result without an id is decoded from its own frame, if it has no
doubles and does not nest too deep. -/
theorem decode_encode {e : Envelope} (plain : ∀ x, e.payload = some x → x.Plain)
    (fits : e.nesting ≤ 127) (other : ∀ v, e ≠ .response ⟨none, .ok v⟩) :
    decode e.encode = .ok e := by
  have parsed : parse e.toJson.bytes = .ok e.toJson :=
    parse_bytes (plain_toJson plain) (by rw [depth_toJson]; exact fits)
  unfold decode encode
  rw [parsed]
  exact ofJson_toJson e other

/-- Messages can only be compared by their members, but the frame that one is sent as again can
be computed. -/
theorem exists_of_computed {frame again : Bytes}
    (h : (decode frame).toOption.map (fun e => (e.payload.isNone, e.encode)) = some (true, again)) :
    ∃ e, decode frame = .ok e ∧ e.encode = again ∧ e.payload = none := by
  cases read : decode frame with
  | error fault => simp [read, Except.toOption] at h
  | ok e =>
    simp only [read, Except.toOption, Option.map_some, Option.some.injEq, Prod.mk.injEq] at h
    exact ⟨e, rfl, h.2, by simpa using h.1⟩

/-- Whatever frame a message was decoded from, it is no result without an id and nests at most
127 deep; and if it passes on no doubles, it is decoded again from the frame it is encoded to,
so that frame is the one it is encoded to ever after. -/
theorem accepted_frames_sent_again (frame : Bytes) (e : Envelope) (accepted : decode frame = .ok e) :
    (∀ v, e ≠ .response ⟨none, .ok v⟩) ∧ e.nesting ≤ 127 ∧
      ((∀ x, e.payload = some x → x.FloatFree) →
        decode e.encode = .ok e ∧ (decode e.encode).map encode = .ok e.encode) := by
  obtain ⟨v, fits, shape⟩ := exists_of_decode accepted
  have other := ne_noId_result shape
  have shallow := nesting_le shape fits
  refine ⟨other, shallow, ?_⟩
  intro whole
  have plain (x : Json) (hx : e.payload = some x) : x.Plain :=
    ((fits_payload shape fits).2 x hx).ordered.plain (whole x hx)
  have again := decode_encode plain shallow other
  refine ⟨again, ?_⟩
  rw [again]
  rfl

/-- Blanks, a member that nobody knows, an id that stands twice, an escape and an error in the
form of a list are gone from the frame that is sent again. -/
theorem error_list_sent_again :
    ∃ e, decode (Utf8.encode
        " \x7b\"jsonrpc\": \"2.0\",\"x\":[],\"id\":1,\"id\":null,\"error\":[7,\"\\u0061\"]\x7d".toList) =
          .ok e ∧
      e.encode = Utf8.encode
        "\x7b\"error\":\x7b\"code\":7,\"message\":\"a\"\x7d,\"id\":null,\"jsonrpc\":\"2.0\"\x7d".toList ∧
      decode e.encode = .ok e := by
  refine (exists_of_computed ?_).imp fun e ⟨read, again, noPayload⟩ => ⟨read, again, ?_⟩
  · decide +kernel
  · refine ((accepted_frames_sent_again _ e read).2.2 ?_).1
    intro x hx
    simp [hx] at noPayload

end Envelope

end LspClient
