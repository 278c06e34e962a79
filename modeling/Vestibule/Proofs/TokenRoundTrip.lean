import Vestibule.Proofs.Base64Codec
import Vestibule.Proofs.JsonRoundTrip
import Vestibule.Proofs.TokenSegments

/-!
Provider tokens read back what was written into them.

A token is written as a header, the payload as a request body in the URL-safe base64 alphabet
with or without padding, and a signature, joined by dots, perhaps with blanks around the whole.
Decoding goes through its stages (segments, octets, JSON value, binding, account name, complete
identity), and each is inverted by a lemma of the codec modules, so the provider and account come
back: a text account trimmed, an integer account in decimal.
-/

namespace Vestibule.ProviderToken

open Vestibule.Text Vestibule.Json

theorem trim_of_isBlankText {s : String} (h : isBlankText s = true) : trim s = "" := by
  have hall : ∀ x ∈ s.toList, isBlank x = true := (isBlankText_iff s).mp h
  rw [trim, trimChars_eq, dropBlank_of_all_blank hall]
  rfl

theorem isBlankText_trim {s : String} (h : trim s ≠ "") : isBlankText (trim s) = false := by
  cases hb : isBlankText (trim s) with
  | false => rfl
  | true =>
    have hempty := trim_of_isBlankText hb
    rw [trim_trim] at hempty
    exact absurd hempty h

theorem decode_of_stages {t x b y : String} {octets : List UInt8} {payload : Value}
    {provider : String} {account : Option Value} {name : String}
    (hseg : (trim t).splitOn "." = [x, b, y]) (hoct : payloadOctets b = .ok octets)
    (hread : readAll octets = .ok payload)
    (hbind : Claims.layout.bind ⟨"", none⟩ payload = (⟨provider, account⟩, none))
    (hname : accountName account = .ok name)
    (hz : Auth.PendingIdentity.isZero ⟨trim provider, name⟩ = false) :
    decode t = .ok ⟨trim provider, name⟩ := by
  unfold decode
  simp only [hseg, List.length_cons, List.length_nil, bne_self_eq_false, Bool.false_eq_true,
    if_false, List.getD_cons_succ, List.getD_cons_zero, hoct]
  simp only [bind, Except.bind, pure, Except.pure]
  rw [hread]
  dsimp only
  rw [hbind]
  dsimp only
  rw [hname]
  dsimp only
  rw [hz]
  rfl

theorem bind_claims (p : String) (v : Value) :
    Claims.layout.bind ⟨"", none⟩ (.object [("provider", .string p), ("providerId", v)]) =
      (⟨p, some v⟩, none) := by
  simp [Layout.bind, Layout.bindWithin, Layout.bindAt, Layout.bindMembers, Layout.select,
    Claims.layout, Field.of, Binder.text, Binder.textAs, Binder.raw]
  rfl

theorem isBlankText_of_parseInt64 {lit : String} (h : (parseInt64 lit).isSome) :
    isBlankText lit = false := by
  cases hb : isBlankText lit with
  | false => rfl
  | true =>
    have hall := (isBlankText_iff lit).mp hb
    have hne := no_blank_of_parseInt64 h
    have hnil : lit.toList = [] := List.eq_nil_iff_forall_not_mem.mpr fun c hc => by
      have hblank := hall c hc
      rw [hne c hc] at hblank
      exact Bool.false_ne_true hblank
    simp [parseInt64, hnil] at h

/-- The token around a payload: blanks `w1`, a header `h`, the payload written as a request
body and encoded in the URL-safe alphabet (padded when `pad`), a signature `g`, blanks `w2`. -/
def wrapPayload (w1 h : String) (pad : Bool) (payload : Value) (g w2 : String) : String :=
  w1 ++ h ++ "." ++ Base64.encodeUrlText pad (Utf8.encode (Style.body.render payload)) ++ "." ++
    g ++ w2

def claimsValue (provider : String) (account : Value) : Value :=
  .object [("provider", .string provider), ("providerId", account)]

theorem dot_not_mem_of_blank {w : String} (hw : isBlankText w = true) : '.' ∉ w.toList :=
  fun hdot => absurd ((isBlankText_iff w).mp hw '.' hdot) (by decide)

theorem segments_wrapPayload {w1 h g w2 : String} (hw1 : isBlankText w1 = true)
    (hw2 : isBlankText w2 = true) (hh : '.' ∉ h.toList) (hg : '.' ∉ g.toList)
    (pad : Bool) (payload : Value) :
    (trim (wrapPayload w1 h pad payload g w2)).splitOn "." =
      [String.ofList (dropBlank (w1 ++ h).toList),
        Base64.encodeUrlText pad (Utf8.encode (Style.body.render payload)),
        String.ofList (dropBlankEnd (g ++ w2).toList)] := by
  have hfront : '.' ∉ (w1 ++ h).toList := by
    rw [String.toList_append, List.mem_append, not_or]
    exact ⟨dot_not_mem_of_blank hw1, hh⟩
  have hback : '.' ∉ (g ++ w2).toList := by
    rw [String.toList_append, List.mem_append, not_or]
    exact ⟨hg, dot_not_mem_of_blank hw2⟩
  have hmid := Base64.dot_not_mem_encodeUrlText pad (Utf8.encode (Style.body.render payload))
  have hchars : (wrapPayload w1 h pad payload g w2).toList =
      (w1 ++ h).toList ++ '.' :: ((Base64.encodeUrlText pad
        (Utf8.encode (Style.body.render payload))).toList ++ '.' :: (g ++ w2).toList) := by
    simp [wrapPayload, String.toList_append]
  rw [trim_splitOn_dot, hchars, List.splitOn_append_cons_self_of_not_mem hfront,
    List.splitOn_append_cons_self_of_not_mem hmid, List.splitOn_eq_singleton hback,
    List.modifyHead_cons, modifyLast_triple]
  simp

theorem payloadOctets_encodeUrlText (pad : Bool) (bs : List UInt8) :
    payloadOctets (Base64.encodeUrlText pad bs) = .ok bs := by
  rw [payloadOctets, Base64.encode_encodeUrlText, Base64.decode_padToQuad_encodeUrl]

/-- Decoding a token inverts its writing: whatever blanks surround it and whatever header and
signature stand around the payload, a payload naming a provider and an account, by a text or by
a signed 64-bit integer, is read back with the provider and a text account trimmed and an
integer account in decimal. -/
theorem decode_inverts_encoding (w1 h g w2 p : String) (pad : Bool)
    (hw1 : isBlankText w1 = true) (hw2 : isBlankText w2 = true)
    (hh : '.' ∉ h.toList) (hg : '.' ∉ g.toList) (hp : trim p ≠ "") :
    (∀ s, trim s ≠ "" →
        decode (wrapPayload w1 h pad (claimsValue p (.string s)) g w2) = .ok ⟨trim p, trim s⟩) ∧
      ∀ n : Int, -9223372036854775808 ≤ n → n ≤ 9223372036854775807 →
        decode (wrapPayload w1 h pad (claimsValue p (.ofInt n)) g w2) = .ok ⟨trim p, toString n⟩ := by
  -- both payloads go through the same stages; only the account name differs
  have hstages : ∀ v, Simple v → ∀ name, accountName (some v) = .ok name →
      Auth.PendingIdentity.isZero ⟨trim p, name⟩ = false →
      decode (wrapPayload w1 h pad (claimsValue p v) g w2) = .ok ⟨trim p, name⟩ := by
    intro v hv name hname hz
    have hsimple : ∀ m ∈ [("provider", Value.string p), ("providerId", v)], Simple m.2 := by
      intro m hm
      simp only [List.mem_cons, List.not_mem_nil, or_false] at hm
      rcases hm with rfl | rfl
      · exact Simple.string p
      · exact hv
    exact decode_of_stages (segments_wrapPayload hw1 hw2 hh hg pad _)
      (payloadOctets_encodeUrlText pad _) (readAll_render_object Style.body _ hsimple)
      (bind_claims p v) hname hz
  have hprov := isBlankText_trim hp
  refine ⟨fun s hs => ?_, fun n hlo hhi => ?_⟩
  · refine hstages _ (Simple.string s) _ rfl ?_
    simp [Auth.PendingIdentity.isZero, hprov, isBlankText_trim hs]
  · have hparse := parseInt64_toString hlo hhi
    refine hstages _ (Simple.int n) _
      (by simp only [accountName, Value.ofInt, hparse, Option.isSome_some, if_true]) ?_
    have hdigits := isBlankText_of_parseInt64 (by rw [hparse]; rfl)
    simp only [Auth.PendingIdentity.isZero, hprov, hdigits, Bool.or_false]

theorem decode_inverts_spaced_token :
    isBlankText " " = true ∧ isBlankText "\n" = true ∧
      '.' ∉ "hdr".toList ∧ '.' ∉ "sig".toList ∧ trim "google" ≠ "" ∧ trim " acct-1 " ≠ "" ∧
      decode (wrapPayload " " "hdr" false (claimsValue "google" (.string " acct-1 ")) "sig" "\n") =
        .ok ⟨trim "google", trim " acct-1 "⟩ :=
  ⟨by decide, by decide, by decide, by decide, by decide, by decide,
    (decode_inverts_encoding " " "hdr" "sig" "\n" "google" false (by decide) (by decide) (by decide)
      (by decide) (by decide)).1 " acct-1 " (by decide)⟩

end Vestibule.ProviderToken
