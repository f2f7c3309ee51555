import TimeProbe.Fault
import TimeProbe.Proofs.SealedText

/-!
# What a cipher opens

A message is sealed under the nonce that was given, or under a drawn one if none was
given or the given one is empty. So no message is ever sealed under an empty nonce, and
a cipher opens a text under a nonce exactly if sealing some plaintext gives this nonce and
this text. All other texts are refused, each for one reason, and every refusal is a failed
authentication. Of the block ciphers nothing is used but that they are functions.
-/

namespace TimeProbe

/-- A nonce that is not empty is used as it was given. -/
theorem freshNonce_of_ne_nil {nonce : Bytes} (e : Entropy) (h : nonce ≠ []) :
    freshNonce (some nonce) e = (nonce, e) := by
  cases nonce with
  | nil => exact absurd rfl h
  | cons b bs => rfl

/-- The nonce of a message is never empty. -/
theorem freshNonce_ne_nil (given : Option Bytes) (e : Entropy) : (freshNonce given e).1 ≠ [] := by
  have hdrawn : (e.draw nonceLength).1 ≠ [] := by
    apply List.ne_nil_of_length_pos
    rw [Entropy.length_draw, nonceLength]
    omega
  match given with
  | none => exact hdrawn
  | some [] => exact hdrawn
  | some (b :: bs) => exact List.cons_ne_nil b bs

/-- A sealed message: its nonce, and the tag followed by the ciphertext. -/
def Aead.Cipher.sealMessage (c : Aead.Cipher) (plaintext associated : Bytes)
    (given : Option Bytes) (e : Entropy) : (Bytes × Bytes) × Entropy :=
  let nonce := freshNonce given e
  ((nonce.1, c.encrypt nonce.1 associated plaintext), nonce.2)

namespace Aead.Cipher

/-- Sealing gives back the given nonce exactly if this is not empty, with the text that the
plaintext is encrypted to under it. -/
theorem sealMessage_eq_iff {c : Cipher} {plaintext associated nonce text : Bytes} {e : Entropy} :
    (c.sealMessage plaintext associated (some nonce) e).1 = (nonce, text) ↔
      nonce ≠ [] ∧ c.encrypt nonce associated plaintext = text := by
  constructor
  · intro h
    obtain ⟨hsame, htext⟩ := Prod.mk.inj h
    have hne : nonce ≠ [] := hsame ▸ freshNonce_ne_nil (some nonce) e
    rw [hsame] at htext
    exact ⟨hne, htext⟩
  · rintro ⟨hne, rfl⟩
    rw [sealMessage, freshNonce_of_ne_nil e hne]

/-- What opens was sealed, and its nonce was given. -/
theorem decrypt_eq_ok_iff_sealMessage {c : Cipher} {nonce associated text plaintext : Bytes}
    (e : Entropy) :
    c.decrypt nonce associated text = .ok plaintext ↔
      (c.sealMessage plaintext associated (some nonce) e).1 = (nonce, text) := by
  rw [decrypt_eq_ok_iff, sealMessage_eq_iff]

/-- Why a text is refused under a nonce. -/
inductive Refused (c : Cipher) (nonce associated text : Bytes) : DecryptError → Prop
  /-- There is no room for a tag; the nonce is not looked at. -/
  | shorterThanTag (short : text.length < 16) :
    Refused c nonce associated text (.shorterThanTag text.length)
  /-- Nothing is sealed under an empty nonce. -/
  | emptyNonce (long : 16 ≤ text.length) (empty : nonce = []) :
    Refused c nonce associated text .emptyNonce
  /-- No plaintext is encrypted to the text. -/
  | rejected (long : 16 ≤ text.length) (given : nonce ≠ [])
      (foreign : ∀ plaintext, c.encrypt nonce associated plaintext ≠ text) :
    Refused c nonce associated text .rejected

/-- A text that is refused is not opened. -/
theorem decrypt_of_refused {c : Cipher} {nonce associated text : Bytes} {error : DecryptError}
    (h : c.Refused nonce associated text error) :
    c.decrypt nonce associated text = .error error := by
  cases h with
  | shorterThanTag short => rw [decrypt, if_pos short]
  | emptyNonce long empty =>
    rw [decrypt, if_neg (Nat.not_lt.mpr long), if_pos (by simp [empty])]
  | rejected long given foreign =>
    have hopen : sivOpen? c.sivKey [associated, nonce] text = none := by
      rw [Option.eq_none_iff_forall_not_mem]
      intro plaintext hsome
      exact foreign plaintext ((sivOpen?_eq_some_iff long).mp hsome)
    rw [decrypt, if_neg (Nat.not_lt.mpr long), if_neg (by simpa using given), hopen]

/-- A text that nothing was sealed to is refused for one of the reasons. -/
theorem exists_refused (c : Cipher) (nonce associated text : Bytes)
    (h : ∀ plaintext, c.decrypt nonce associated text ≠ .ok plaintext) :
    ∃ error, c.Refused nonce associated text error := by
  by_cases hshort : text.length < 16
  · exact ⟨_, .shorterThanTag hshort⟩
  by_cases hempty : nonce = []
  · exact ⟨_, .emptyNonce (Nat.not_lt.mp hshort) hempty⟩
  refine ⟨_, .rejected (Nat.not_lt.mp hshort) hempty fun plaintext hseal => ?_⟩
  exact h plaintext (decrypt_eq_ok_iff.mpr ⟨hempty, hseal⟩)

/-- The error of a text that is not opened is the reason for which it is refused. -/
theorem decrypt_eq_error_iff {c : Cipher} {nonce associated text : Bytes}
    {error : DecryptError} :
    c.decrypt nonce associated text = .error error ↔ c.Refused nonce associated text error := by
  refine ⟨fun h => ?_, decrypt_of_refused⟩
  obtain ⟨reason, hreason⟩ := exists_refused c nonce associated text (by simp [h])
  have hsame : reason = error := Except.error.inj ((decrypt_of_refused hreason).symm.trans h)
  exact hsame ▸ hreason

end Aead.Cipher

/-- Every refusal of a cipher is reported as a failed authentication. -/
theorem Fault.kind_ofDecryptError (error : Aead.Cipher.DecryptError) :
    (Fault.ofDecryptError error).kind = .ntsAuthentication := by cases error <;> rfl

namespace Aead.Cipher

/-- A cipher of any algorithm opens exactly what it seals. Under the given nonce a text opens to
a plaintext if and only if it has room for a tag and sealing the plaintext gives back this nonce
and this text, which then is sixteen octets longer than the plaintext. Every other text is
refused, and so is every text under an empty nonce: each for its reason, and always by a failed
authentication. The last part says the same of any two functions on blocks in place of the
block ciphers. -/
theorem decrypt_exact (c : Cipher) (nonce associated text : Bytes) (e : Entropy) :
    (∀ plaintext, c.decrypt nonce associated text = .ok plaintext ↔
      16 ≤ text.length ∧
        (c.sealMessage plaintext associated (some nonce) e).1 = (nonce, text)) ∧
    (∀ plaintext, c.decrypt nonce associated text = .ok plaintext →
      text.length = 16 + plaintext.length) ∧
    ((∃ error, c.decrypt nonce associated text = .error error) ↔
      nonce = [] ∨ ∀ plaintext,
        ¬ (16 ≤ text.length ∧
          (c.sealMessage plaintext associated (some nonce) e).1 = (nonce, text))) ∧
    (∀ error, c.decrypt nonce associated text = .error error ↔
      c.Refused nonce associated text error) ∧
    (∀ error, c.decrypt nonce associated text = .error error →
      (Fault.ofDecryptError error).kind = .ntsAuthentication) ∧
    ∀ (key : SivKey) (plaintext : Bytes), 16 ≤ text.length →
      (sivOpen? key [associated, nonce] text = some plaintext ↔
        sivSeal key [associated, nonce] plaintext = text) := by
  have hlength (plaintext : Bytes) (h : c.decrypt nonce associated text = .ok plaintext) :
      text.length = 16 + plaintext.length := by
    obtain ⟨-, rfl⟩ := decrypt_eq_ok_iff.mp h
    exact c.length_encrypt nonce associated plaintext
  have hopens (plaintext : Bytes) : c.decrypt nonce associated text = .ok plaintext ↔
      16 ≤ text.length ∧
        (c.sealMessage plaintext associated (some nonce) e).1 = (nonce, text) := by
    rw [← decrypt_eq_ok_iff_sealMessage e]
    refine ⟨fun h => ⟨?_, h⟩, And.right⟩
    have := hlength plaintext h
    omega
  refine ⟨hopens, hlength, ⟨?_, ?_⟩, fun error => decrypt_eq_error_iff,
    fun error _ => Fault.kind_ofDecryptError error, fun key plaintext => sivOpen?_eq_some_iff⟩
  · rintro ⟨error, herror⟩
    refine .inr fun plaintext hsealed => ?_
    have hok := (hopens plaintext).mpr hsealed
    simp [herror] at hok
  · intro hforeign
    have hclosed (plaintext : Bytes) : c.decrypt nonce associated text ≠ .ok plaintext := by
      intro hok
      rcases hforeign with hempty | hforeign
      · exact (decrypt_eq_ok_iff.mp hok).1 hempty
      · exact hforeign plaintext ((hopens plaintext).mp hok)
    obtain ⟨error, hrefused⟩ := exists_refused c nonce associated text hclosed
    exact ⟨error, decrypt_of_refused hrefused⟩

end Aead.Cipher

end TimeProbe
