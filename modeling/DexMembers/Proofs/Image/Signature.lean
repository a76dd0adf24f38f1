import DexMembers.Journal
import DexMembers.Proofs.Image.Layout

/-!
# Signed images

The signature is a digest of all that stands behind it, and the checksum one of all that stands
behind the checksum, the signature included.  Neither covers itself, so an image that was signed in
this order passes the check of the reader.
-/

set_option autoImplicit false

namespace DexMembers

namespace Draft

/-- Signing a header changes two of its fields: the signature, from what stands behind it, and then
the checksum. -/
theorem sign_spec (header : Header) (body : List UInt8) : ∃ signature checksum,
    sign header body = { header with signature := signature, checksum := checksum } ∧
    signature = Checksum.sha1 (header.words.flatMap Header.wordBytes ++ body) ∧
    checksum = Checksum.adler32
      (({ header with signature := signature } : Header).signedBytes ++ body) :=
  ⟨_, _, rfl, rfl, rfl⟩

theorem words_withDigests (header : Header) (signature : Vector UInt8 20) (checksum : UInt32) :
    ({ header with signature := signature, checksum := checksum } : Header).words =
      header.words := rfl

theorem signature_sign (header : Header) (body : List UInt8) :
    (((sign header body).bytes ++ body).drop 12).take 20 =
      (Checksum.sha1 (((sign header body).bytes ++ body).drop 32)).toList := by
  obtain ⟨signature, checksum, same, signed, _⟩ := sign_spec header body
  rw [same, Header.signature_bytes, Header.drop_signature, words_withDigests, ← signed]

theorem checksum_sign (header : Header) (body : List UInt8) :
    (sign header body).checksum =
      Checksum.adler32 (((sign header body).bytes ++ body).drop 12) := by
  obtain ⟨signature, checksum, same, _, checked⟩ := sign_spec header body
  rw [same, Header.drop_checksum]
  exact checked

end Draft

namespace Image

variable {header : Header} {content : List UInt8}

theorem checksumEvents_eq_nil (size : header.fileSize.toNat = content.length)
    (checksum : header.checksum = Checksum.adler32 (content.drop 12)) :
    checksumEvents header content = [] := by
  have whole : content.length ≤ header.checkedEnd content.length := by
    rw [Header.checkedEnd, size, Nat.min_self]
    exact Nat.le_max_right _ _
  have computed : computedChecksum header content = header.checksum := by
    rw [computedChecksum, List.take_of_length_le whole, checksum]
  rw [checksumEvents, if_pos computed]

theorem checksumMismatch_not_mem_events (read : Header.read content = .ok header)
    (size : header.fileSize.toNat = content.length)
    (checksum : header.checksum = Checksum.adler32 (content.drop 12)) (stated computed : UInt32) :
    Event.checksumMismatch stated computed ∉ (readTraced content).events := by
  have none := checksumEvents_eq_nil size checksum
  simp only [readTraced, readEvents, read, none, List.nil_append]
  cases Image.read content <;> simp

end Image

end DexMembers
