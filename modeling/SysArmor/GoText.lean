import Mathlib.Data.List.Basic
import Mathlib.Data.List.DropRight
import Mathlib.Data.List.Sort
import Mathlib.Data.String.Basic
import SysArmor.ByteWords

/-! The string functions of the Go library that the agent and the manager use. All texts
are valid UTF-8, so searching for a text finds the same places in the characters as in the
bytes. What depends on Unicode tables or on floating point is a parameter. -/
namespace SysArmor.GoText
open ByteWords List

/-- `unicode.IsSpace`. -/
def isSpace (c : Char) : Bool :=
  [9,10,11,12,13,32,0x85,0xA0,0x1680,0x2028,0x2029,0x202F,0x205F,0x3000].contains c.toNat ||
    (0x2000 ≤ c.toNat && c.toNat ≤ 0x200A)

/-- The library functions taken as given: `unicode.ToLower`, which maps letters to letters, the
`%q` verb, the comparison of two parsed 64-bit floats (`none` when one does not parse or they
are unordered) and whether `time.ParseDuration` accepts a text. -/
structure Stdlib where
  toLower : Char → Char
  toLower_isSpace : ∀ c, isSpace (toLower c) = isSpace c
  quote : String → String
  compareFloat : String → String → Option Ordering
  validDuration : String → Bool

def trimSpace (s : String) : String :=
  String.ofList ((s.toList.dropWhile isSpace).rdropWhile isSpace)

def toLower (go : Stdlib) (s : String) : String := String.ofList (s.toList.map go.toLower)
def hasPrefix (s pattern : String) : Bool := pattern.toList.isPrefixOf s.toList
def hasSuffix (s pattern : String) : Bool := pattern.toList.isSuffixOf s.toList

/-- `strings.Contains`: the pattern starts at some place of the text. -/
def contains (s pattern : String) : Bool := s.toList.tails.any pattern.toList.isPrefixOf

def containsAny (s chars : String) : Bool := s.toList.any chars.toList.contains

/-- `strings.Cut` at a single character: what stands before and after its first occurrence. -/
def cut (s : String) (separator : Char) : Option (String × String) :=
  match s.toList.dropWhile (· ≠ separator) with
  | [] => none
  | _ :: after => some (String.ofList (s.toList.takeWhile (· ≠ separator)),String.ofList after)

def join (parts : List String) (separator : String) : String := separator.intercalate parts

/-- `filepath.Base` on a Unix path. -/
def base (path : String) : String :=
  if path = "" then "."
  else match path.toList.rdropWhile (· = '/') with
    | [] => "/"
    | trimmed => String.ofList (trimmed.rtakeWhile (· ≠ '/'))

def formatUint (n : Nat) : String := toString n

def firstNonEmpty (values : List String) : String :=
  (values.find? (trimSpace · ≠ "")).getD ""

def trim (s : String) (cut : Char) : String :=
  String.ofList ((s.toList.dropWhile (· = cut)).rdropWhile (· = cut))

/-- `sort.Strings`: the order of the bytes of UTF-8 is the order of the characters. -/
def sortStrings (values : List String) : List String := values.insertionSort (· ≤ ·)

def distinct (seen : List String) : List String → List String
  | [] => []
  | value :: rest => if value ∈ seen then distinct seen rest else value :: distinct (value :: seen) rest

def uniqueTrimmed (values : List String) : List String := distinct [] ((values.map trimSpace).filter (· ≠ ""))
def byteAt (s : String) (index : Nat) : Option UInt8 := (utf8 s)[index]?

/-! Steps that may fail. -/

lemma bind_eq_ok {x : Except ε α} {f : α → Except ε β} {result : β} :
    x >>= f = .ok result ↔ ∃ value, x = .ok value ∧ f value = .ok result := by
  cases x <;> simp [bind,Except.bind]

lemma mapError_eq_ok {x : Except ε α} {f : ε → ε'} {result : α} : x.mapError f = .ok result ↔ x = .ok result := by
  cases x <;> simp [Except.mapError]

lemma append_separator_injective {left right : String} {separator : Char} {a b : String}
    (leftFree : separator ∉ left.toList) (rightFree : separator ∉ right.toList)
    (same : left ++ String.singleton separator ++ a = right ++ String.singleton separator ++ b) : left = right ∧ a = b := by
  have letters := congrArg String.toList same
  simp only [String.toList_append,String.toList_singleton,append_assoc,singleton_append] at letters
  have old (text : String) (rest : List Char) (free : separator ∉ text.toList) :
      (text.toList ++ separator :: rest).takeWhile (· ≠ separator) = text.toList := by
    rw [takeWhile_append_of_pos (fun letter mem => by
      simpa using ne_of_mem_of_not_mem mem free)]
    simp
  have lefts := congrArg (List.takeWhile (· ≠ separator)) letters
  rw [old left _ leftFree,old right _ rightFree] at lefts
  rw [lefts] at letters
  exact ⟨String.toList_inj.mp lefts,String.toList_inj.mp (by simpa using letters)⟩

lemma sortStrings_perm (values : List String) : (sortStrings values).Perm values :=
  perm_insertionSort _ values

lemma sortStrings_eq_of_perm {left right : List String} (perm : left.Perm right) : sortStrings left = sortStrings right :=
  List.Perm.eq_of_pairwise (fun _ _ _ _ => le_antisymm) (pairwise_insertionSort _ left)
    (pairwise_insertionSort _ right)
    ((sortStrings_perm left).trans (perm.trans (sortStrings_perm right).symm))

variable {s : String} {seen values : List String}

lemma trimSpace_eq_empty : trimSpace s = "" ↔ ∀ c ∈ s.toList, isSpace c := by
  rw [trimSpace,String.ofList_eq_empty_iff,rdropWhile_eq_nil_iff,← dropWhile_eq_nil_iff,
    dropWhile_idempotent,dropWhile_eq_nil_iff]

lemma trimSpace_trimSpace (s : String) : trimSpace (trimSpace s) = trimSpace s := by
  simp only [trimSpace,String.toList_ofList]
  generalize start : s.toList.dropWhile isSpace = letters
  cases letters with
  | nil => simp
  | cons first rest =>
    -- the first letter left is no space, so trimming the end does not reach it
    have solid : isSpace first = false := by
      have := head?_dropWhile_not isSpace s.toList
      simpa [start] using this
    have kept : ((first :: rest).rdropWhile isSpace).head? = some first := by
      obtain ⟨tail,split⟩ := rdropWhile_prefix isSpace (first :: rest)
      cases shape : (first :: rest).rdropWhile isSpace with
      | nil => simpa [solid] using rdropWhile_eq_nil_iff.mp shape first mem_cons_self
      | cons head others =>
        rw [shape,cons_append] at split
        rw [head?_cons,(List.cons.inj split).1]
    have still : ((first :: rest).rdropWhile isSpace).dropWhile isSpace = (first :: rest).rdropWhile isSpace := by
      rw [dropWhile_eq_self_iff]
      intro bound
      rw [head?_eq_getElem?,getElem?_eq_getElem bound] at kept
      simp [Option.some.inj kept,solid]
    rw [still,rdropWhile_idempotent]

lemma trimSpace_eq_self (s : String) (first : ∀ c ∈ s.toList.head?, isSpace c = false)
    (last : ∀ c ∈ s.toList.getLast?, isSpace c = false) : trimSpace s = s := by
  have start : s.toList.dropWhile isSpace = s.toList := by
    rw [dropWhile_eq_self_iff]
    intro bound
    simpa using first _ (by simp [head?_eq_getElem?])
  have stop : s.toList.rdropWhile isSpace = s.toList := by
    rw [rdropWhile_eq_self_iff]
    intro some
    simpa using last _ (getLast?_eq_some_getLast some)
  rw [trimSpace,start,stop,String.ofList_toList]

lemma ends_of_trimSpace_eq_self (same : trimSpace s = s) :
    (∀ c ∈ s.toList.head?, isSpace c = false) ∧ ∀ c ∈ s.toList.getLast?, isSpace c = false := by
  have letters : (s.toList.dropWhile isSpace).rdropWhile isSpace = s.toList := by
    simpa [trimSpace] using congrArg String.toList same
  have started : s.toList.dropWhile isSpace = s.toList := by
    refine (dropWhile_suffix isSpace).eq_of_length_le ?_
    have shorter := ( rdropWhile_prefix isSpace (s.toList.dropWhile isSpace)).length_le
    rwa [letters] at shorter
  rw [started] at letters
  constructor
  · intro c first
    have solid := head?_dropWhile_not isSpace s.toList
    rw [started,first] at solid
    simpa using solid
  · intro c final
    have whole : s.toList ≠ [] := by
      intro empty
      simp [empty] at final
    have solid := rdropWhile_last_not isSpace s.toList (by rwa [letters])
    simp only [letters] at solid
    rw [getLast?_eq_getLast_of_ne_nil whole,Option.mem_some_iff] at final
    simpa [final] using solid

lemma mem_distinct : value ∈ distinct seen values ↔ value ∈ values ∧ value ∉ seen := by
  induction values generalizing seen with
  | nil => simp [distinct]
  | cons head rest ih =>
    rw [distinct]
    by_cases here : value = head
    · split <;> simp_all
    · split <;> simp [ih,here]

lemma distinct_nodup (seen values : List String) : (distinct seen values).Nodup := by
  induction values generalizing seen with
  | nil => exact nodup_nil
  | cons head rest ih =>
    rw [distinct]
    split
    · exact ih seen
    · exact nodup_cons.mpr ⟨fun again => (mem_distinct.mp again).2 mem_cons_self,ih _⟩

lemma distinct_of_nodup (once : values.Nodup) (fresh : ∀ value ∈ values, value ∉ seen) : distinct seen values = values := by
  induction values generalizing seen with
  | nil => rfl
  | cons head rest ih =>
    obtain ⟨absent,once⟩ := nodup_cons.mp once
    rw [distinct,if_neg (fresh head mem_cons_self),ih once]
    intro value mem
    rw [mem_cons,not_or]
    exact ⟨fun same => absent (same ▸ mem),fresh value (mem_cons_of_mem _ mem)⟩

lemma mem_uniqueTrimmed : value ∈ uniqueTrimmed values ↔ (∃ raw ∈ values, trimSpace raw = value) ∧ value ≠ "" := by
  simp [uniqueTrimmed,mem_distinct]

lemma uniqueTrimmed_of_normal (once : values.Nodup)
    (trimmed : ∀ value ∈ values, trimSpace value = value ∧ value ≠ "") : uniqueTrimmed values = values := by
  have same : (values.map trimSpace).filter (· ≠ "") = values := by
    rw [map_congr_left fun value mem => (trimmed value mem).1,map_id',filter_eq_self]
    exact fun value mem => by simpa using (trimmed value mem).2
  rw [uniqueTrimmed,same,distinct_of_nodup once fun _ _ => not_mem_nil]

lemma uniqueTrimmed_uniqueTrimmed (values : List String) : uniqueTrimmed (uniqueTrimmed values) = uniqueTrimmed values := by
  refine uniqueTrimmed_of_normal (distinct_nodup _ _) fun value mem => ?_
  obtain ⟨⟨raw,_,rfl⟩,solid⟩ := mem_uniqueTrimmed.mp mem
  exact ⟨trimSpace_trimSpace raw,solid⟩

lemma formatUint_injective {n m : Nat} (same : formatUint n = formatUint m) : n = m := by
  have digits : Nat.toDigits 10 n = Nat.toDigits 10 m := by
    have texts := congrArg String.toList same
    simpa [formatUint,toString,Nat.repr] using texts
  rw [← Nat.ofDigitChars_ten_toDigits (n := n),digits,Nat.ofDigitChars_ten_toDigits]

lemma trimSpace_toLower (go : Stdlib) (s : String) : trimSpace (toLower go s) = toLower go (trimSpace s) := by
  have same : isSpace ∘ go.toLower = isSpace := funext go.toLower_isSpace
  simp [trimSpace,toLower,List.rdropWhile,dropWhile_map,same,← map_reverse]

lemma trimSpace_toLower_eq_empty {go : Stdlib} : trimSpace (toLower go s) = "" ↔ trimSpace s = "" := by
  simp [trimSpace_eq_empty,toLower,go.toLower_isSpace]

lemma isSpace_eq_false {c : Char} (low : 33 ≤ c.toNat) (high : c.toNat < 128) : isSpace c = false := by
  simp [isSpace]
  omega

lemma isSpace_asciiLower (c : Char) : isSpace c.toLower = isSpace c := by
  unfold Char.toLower
  split
  · rename_i letter
    have low : 65 ≤ c.toNat := letter.1
    have high : c.toNat ≤ 90 := letter.2
    have moved : (c.val + ('a'.val - 'A'.val)).toNat = c.toNat + 32 := by
      have wrapped : (c.val + ('a'.val - 'A'.val)).toNat = (c.toNat + 32) % 2 ^ 32 := rfl
      omega
    rw [isSpace_eq_false (c := c) (by omega) (by omega),isSpace_eq_false]
    · exact (show 33 ≤ c.toNat + 32 by omega).trans_eq moved.symm
    · exact moved.trans_lt (by omega)
  · rfl

lemma asciiLower_asciiLower (c : Char) : c.toLower.toLower = c.toLower := by
  have small : ¬(c.toLower.val ≥ 'A'.val ∧ c.toLower.val ≤ 'Z'.val) := by
    unfold Char.toLower
    split
    · rename_i letter
      have low : 65 ≤ c.toNat := letter.1
      have high : c.toNat ≤ 90 := letter.2
      have moved : (c.val + ('a'.val - 'A'.val)).toNat = (c.toNat + 32) % 2 ^ 32 := rfl
      rintro ⟨_,still⟩
      have top : (c.val + ('a'.val - 'A'.val)).toNat ≤ 90 := still
      omega
    · rename_i other
      exact other
  exact dif_neg small

def asciiStdlib : Stdlib where
  toLower := Char.toLower
  toLower_isSpace := isSpace_asciiLower
  quote := fun s => "\"" ++ s ++ "\""
  compareFloat := fun _ _ => none
  validDuration := fun _ => true

end SysArmor.GoText
