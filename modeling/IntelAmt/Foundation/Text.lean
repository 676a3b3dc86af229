import IntelAmt.Foundation.Bytes

/-!
# Text in files

A text is written as UTF-8.  It is read strictly, and every line end is read
as a line feed.
-/

namespace IntelAmt
namespace Foundation

def encodeUtf8 (text : List Char) : Bytes :=
  text.flatMap String.utf8EncodeChar

/-- Nothing when the bytes are not UTF-8. -/
def decodeUtf8 (bytes : Bytes) : Option (List Char) :=
  bytes.toByteArray.utf8Decode?.map Array.toList

theorem decodeUtf8_encodeUtf8 (text : List Char) :
    decodeUtf8 (encodeUtf8 text) = some text := by
  have hdecode : (text.flatMap String.utf8EncodeChar).toByteArray.utf8Decode? =
      some text.toArray := List.utf8Decode?_utf8Encode
  rw [decodeUtf8, encodeUtf8, hdecode]
  rfl

theorem encodeUtf8_of_ascii {text : List Char}
    (h : forall c, c ∈ text -> c.toNat < 128) :
    encodeUtf8 text = text.map fun c => UInt8.ofNat c.toNat := by
  induction text with
  | nil => rfl
  | cons c text ih =>
      have hc : String.utf8EncodeChar c = [UInt8.ofNat c.toNat] := by
        have hsize : c.utf8Size = 1 := by
          rw [Char.utf8Size_eq_one_iff, UInt32.le_iff_toNat_le]
          exact Nat.le_of_lt_succ (h c (by simp))
        rw [String.utf8EncodeChar_eq_singleton hsize]
        rfl
      rw [List.map_cons, ← ih fun d hd => h d (List.mem_cons_of_mem _ hd)]
      unfold encodeUtf8
      rw [List.flatMap_cons, hc]
      rfl

theorem decodeUtf8_prefix {text : List Char}
    (h : forall c, c ∈ text -> c.toNat < 128) {bytes : Bytes}
    (hbytes : bytes <+: encodeUtf8 text) :
    decodeUtf8 bytes = some (text.take bytes.length) := by
  have htake : bytes = encodeUtf8 (text.take bytes.length) := by
    rw [encodeUtf8_of_ascii fun c hc => h c (List.mem_of_mem_take hc),
      List.map_take, ← encodeUtf8_of_ascii h]
    exact List.prefix_iff_eq_take.mp hbytes
  calc
    decodeUtf8 bytes = decodeUtf8 (encodeUtf8 (text.take bytes.length)) := by
      rw [← htake]
    _ = some (text.take bytes.length) := decodeUtf8_encodeUtf8 _

/-- Universal newlines. -/
def universalNewlines : List Char -> List Char
  | '\r' :: '\n' :: rest => '\n' :: universalNewlines rest
  | '\r' :: rest => '\n' :: universalNewlines rest
  | c :: rest => c :: universalNewlines rest
  | [] => []

theorem universalNewlines_of_notMem {text : List Char}
    (h : '\r' ∉ text) : universalNewlines text = text := by
  fun_induction universalNewlines text with
  | case1 | case2 => simp at h
  | case3 c rest _ _ ih =>
      rw [ih fun hmem => h (List.mem_cons_of_mem _ hmem)]
  | case4 => rfl

/-!
## Ends that are kept
-/

section Ends

variable {alpha : Type} {p : alpha -> Bool} {items : List alpha}

theorem dropWhile_none (h : forall item, item ∈ items -> p item = false) :
    items.dropWhile p = items := by
  cases items with
  | nil => rfl
  | cons item rest =>
      exact List.dropWhile_cons_of_neg (by simp [h item List.mem_cons_self])

theorem dropEnds_none (h : forall item, item ∈ items -> p item = false) :
    ((items.dropWhile p).reverse.dropWhile p).reverse = items := by
  have hreverse : items.reverse.dropWhile p = items.reverse :=
    dropWhile_none fun item hitem => h item (List.mem_reverse.mp hitem)
  rw [dropWhile_none h, hreverse, List.reverse_reverse]

theorem dropEnds_cons {item : alpha} (h : p item = false)
    (rest : List alpha) :
    exists later, (((item :: rest).dropWhile p).reverse.dropWhile p).reverse =
      item :: later := by
  have hitem : ¬ p item = true := by simp [h]
  have hback : (item :: rest).reverse = rest.reverse ++ [item] :=
    List.reverse_cons
  rw [List.dropWhile_cons_of_neg hitem, hback, List.dropWhile_append]
  by_cases hrest : (rest.reverse.dropWhile p).isEmpty
  · rw [if_pos hrest, List.dropWhile_cons_of_neg hitem]
    exact ⟨[], rfl⟩
  · rw [if_neg hrest, List.reverse_append]
    exact ⟨_, rfl⟩

end Ends
end Foundation
end IntelAmt
