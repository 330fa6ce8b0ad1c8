import NostrVpn.Rust.Str

/-!
# Texts of ASCII characters

The characters of a text whose bytes are all ASCII are its bytes.
-/
namespace Rust

/-- The bytes of a text. -/
def textBytes (text : String) : List UInt8 := text.toByteArray.data.toList

def isAscii (text : String) : Bool := (textBytes text).all (· < 128)

theorem textBytes_ofList (cs : List Char) : textBytes (.ofList cs) = cs.flatMap String.utf8EncodeChar := by
  rw [textBytes, String.toByteArray_ofList, List.utf8Encode, List.toList_data_toByteArray]

theorem utf8EncodeChar_of_ascii {c : Char} (ascii : ∀ b ∈ String.utf8EncodeChar c, b < 128) :
    String.utf8EncodeChar c = [UInt8.ofNat c.toNat] ∧ c.toNat < 128 := by
  have first : c.val.toNat ≤ 0x7f := by
    by_contra large
    unfold String.utf8EncodeChar at ascii
    simp only [large, if_false] at ascii
    -- The first of several bytes is at least 192.
    split_ifs at ascii
    all_goals
      have head := ascii _ List.mem_cons_self
      rw [UInt8.lt_iff_toNat_lt, UInt8.toNat_ofNat'] at head
      have bound : (128 : UInt8).toNat = 128 := rfl
      omega
  refine ⟨?_, ?_⟩
  · simp only [String.utf8EncodeChar, first, if_true]
    rfl
  · have same : c.toNat = c.val.toNat := rfl
    omega

/-- A character a byte. -/
def asciiChars (text : String) : List Char := (textBytes text).map fun b => Char.ofNat b.toNat

/-- The characters of an ASCII text are read from its bytes. -/
theorem toList_of_isAscii {text : String} (ascii : isAscii text) : text.toList = asciiChars text := by
  unfold asciiChars
  obtain ⟨cs, rfl⟩ : ∃ cs, text = String.ofList cs := ⟨text.toList, String.ofList_toList.symm⟩
  rw [String.toList_ofList]
  simp only [isAscii, textBytes_ofList, List.all_eq_true, List.mem_flatMap, decide_eq_true_eq] at ascii ⊢
  induction cs with
  | nil => rfl
  | cons c cs ih =>
    obtain ⟨code, small⟩ := @utf8EncodeChar_of_ascii c fun b mem => ascii b ⟨c, List.mem_cons_self, mem⟩
    have back : Char.ofNat (UInt8.ofNat c.toNat).toNat = c := by
      have same : (UInt8.ofNat c.toNat).toNat = c.toNat := by
        rw [UInt8.toNat_ofNat']
        omega
      rw [same, Char.ofNat_toNat]
    have rest := ih fun b ⟨d, mem, byte⟩ => ascii b ⟨d, List.mem_cons_of_mem c mem, byte⟩
    rw [List.flatMap_cons, code, List.map_append, ← rest, List.map_singleton, back, List.singleton_append]

section Texts
variable {text : String} (ascii : isAscii text)
include ascii

theorem startsWith_of_isAscii {pre : String} (ascii' : isAscii pre) :
    startsWith pre text = (asciiChars pre).isPrefixOf (asciiChars text) := by
  rw [startsWith, toList_of_isAscii ascii, toList_of_isAscii ascii']

/-- A text without white space is not trimmed. -/
theorem trim_of_isAscii (clean : (asciiChars text).all fun c => !isWhitespace c) : trim text = text := by
  refine trim_eq_self fun c mem => ?_
  rw [toList_of_isAscii ascii] at mem
  simpa using List.all_eq_true.mp clean c mem

theorem isBlank_of_isAscii (clean : (asciiChars text).all fun c => !isWhitespace c) (ne : text ≠ "") :
    isBlank text = false := by
  simpa [isBlank, trim_of_isAscii ascii clean] using ne

end Texts

end Rust
