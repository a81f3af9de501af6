import Mathlib
import SysArmor.GoText

/-! Package `net/url`: how a URL is parsed and written out again. A text is a sequence of bytes here,
each given as the character with its number. Hosts in brackets are left to a parameter. -/
namespace SysArmor.GoUrl
open GoText List

inductive Part where
  | path
  | host
  | userPassword
  | query
  | fragment
  deriving DecidableEq

inductive ParseError where
  | invalidEscape
  | invalidHost
  | invalidPort
  | invalidUserinfo
  | controlCharacter
  | missingScheme
  | colonInFirstSegment
  deriving DecidableEq

def unreserved (c : Char) : Bool := c.isAlphanum || "-_.~".toList.contains c

def keptIn : Part → List Char
  | .path => "$&+,/:;=@".toList
  | .host => "!$&'()*+,;=:[]<>\"".toList
  | .userPassword => "$&+,;=".toList
  | .query => []
  | .fragment => "$&+,/:;=?@!()*".toList

def shouldEscape (part : Part) (c : Char) : Bool := !(unreserved c || (keptIn part).contains c)
def upperhex (n : Nat) : Char := ("0123456789ABCDEF".toList[n]?).getD '0'

def unhex (c : Char) : Option Nat :=
  if c.isDigit then some (c.toNat - 48)
  else if 'a' ≤ c ∧ c ≤ 'f' then some (c.toNat - 87)
  else if 'A' ≤ c ∧ c ≤ 'F' then some (c.toNat - 55)
  else none

def escape (part : Part) (s : List Char) : List Char :=
  s.flatMap fun c =>
    if !shouldEscape part c then [c]
    else if part = .query && c = ' ' then ['+']
    else ['%',upperhex (c.toNat / 16),upperhex (c.toNat % 16)]

def plainChar (part : Part) (c : Char) : Except ParseError Char :=
  if part = .host && c.toNat < 128 && shouldEscape .host c then .error .invalidHost
  else .ok (if part = .query && c = '+' then ' ' else c)

def unescape (part : Part) : List Char → Except ParseError (List Char)
  | [] => .ok []
  | '%' :: a :: b :: rest => do
    let (some high,some low) := (unhex a,unhex b) | throw .invalidEscape
    -- a host may escape bytes outside of ASCII and the percent sign
    if part = .host && high < 8 && !(a = '2' && b = '5') then throw .invalidEscape
    let rest ← unescape part rest
    return Char.ofNat (16 * high + low) :: rest
  | '%' :: _ => .error .invalidEscape
  | c :: rest => do
    let c ← plainChar part c
    let rest ← unescape part rest
    return c :: rest

structure URL where
  (scheme opaquePart : List Char := [])
  user : Option (List Char × Option (List Char)) := none
  (host path rawPath : List Char := [])
  (omitHost forceQuery : Bool := false)
  (rawQuery fragment rawFragment : List Char := [])
  deriving DecidableEq

def cutAt (separator : Char) (s : List Char) : List Char × List Char :=
  (s.takeWhile (· ≠ separator),(s.dropWhile (· ≠ separator)).drop 1)

def schemeChar (c : Char) : Bool := c.isAlphanum || "+-.".toList.contains c

def getScheme (raw : List Char) : Except ParseError (List Char × List Char) :=
  match raw.takeWhile schemeChar,raw.dropWhile schemeChar with
  | [],':' :: _ => .error .missingScheme
  | first :: front,':' :: rest => if first.isAlpha then .ok (first :: front,rest) else .ok ([],raw)
  | _,_ => .ok ([],raw)

def validOptionalPort : List Char → Bool
  | [] => true
  | ':' :: port => port.all (·.isDigit)
  | _ => false

def userinfoChar (c : Char) : Bool := c.isAlphanum || "-._:~!$&'()*+,;=%@".toList.contains c

section
variable (ipLiteral : List Char → Except ParseError (List Char))

def parseHost (host : List Char) : Except ParseError (List Char) :=
  if host.head? = some '[' then ipLiteral host
  else
    let port := host.rtakeWhile (· ≠ ':')
    if host.contains ':' && !validOptionalPort (':' :: port) then .error .invalidPort
    else unescape .host host

def parseAuthority (authority : List Char) : Except ParseError (Option (List Char × Option (List Char)) × List Char) := do
  let host ← parseHost ipLiteral (authority.rtakeWhile (· ≠ '@'))
  if !authority.contains '@' then return (none,host)
  let userinfo := (authority.rdropWhile (· ≠ '@')).dropLast
  if !userinfo.all userinfoChar then throw .invalidUserinfo
  let username ← unescape .userPassword (cutAt ':' userinfo).1
  if !userinfo.contains ':' then return (some (username,none),host)
  let password ← unescape .userPassword (cutAt ':' userinfo).2
  return (some (username,some password),host)

def setPath (url : URL) (p : List Char) : Except ParseError URL := do
  let path ← unescape .path p
  return { url with path, rawPath := if p = escape .path path then [] else p }

def setFragment (url : URL) (f : List Char) : Except ParseError URL := do
  let fragment ← unescape .fragment f
  return { url with fragment, rawFragment := if f = escape .fragment fragment then [] else f }

def cutQuery (rest : List Char) : Bool × List Char × List Char :=
  if rest.getLast? = some '?' && rest.count '?' = 1 then (true,rest.dropLast,[])
  else (false,cutAt '?' rest)

def parseBody (raw : List Char) : Except ParseError URL := do
  if raw.any fun c => c.toNat < 32 || c.toNat = 127 then throw .controlCharacter
  if raw = ['*'] then return { path := raw }
  let (scheme,rest) ← getScheme raw
  let (forceQuery,rest,rawQuery) := cutQuery rest
  let url : URL := { scheme := scheme.map Char.toLower, forceQuery, rawQuery }
  if rest.head? ≠ some '/' && scheme ≠ [] then return { url with opaquePart := rest }
  if rest.head? ≠ some '/' && (cutAt '/' rest).1.contains ':' then throw .colonInFirstSegment
  if (scheme ≠ [] || !"///".toList.isPrefixOf rest) && "//".toList.isPrefixOf rest then
    let (user,host) ← parseAuthority ipLiteral ((rest.drop 2).takeWhile (· ≠ '/'))
    setPath { url with user, host } ((rest.drop 2).dropWhile (· ≠ '/'))
  else setPath { url with omitHost := scheme ≠ [] && rest.head? = some '/' } rest

def parse (raw : List Char) : Except ParseError URL := do
  let (body,fragment) := cutAt '#' raw
  let url ← parseBody ipLiteral body
  if fragment = [] then return url
  setFragment url fragment

end

def escapedOr (part : Part) (raw value : List Char) : List Char :=
  if raw ≠ [] && raw.all (fun c => c = '%' || !shouldEscape part c) && (unescape part raw).toOption = some value then raw
  else escape part value

def escapedPath (url : URL) : List Char :=
  if url.path = ['*'] && url.rawPath = [] then ['*'] else escapedOr .path url.rawPath url.path

def userString : List Char × Option (List Char) → List Char
  | (name,none) => escape .userPassword name
  | (name,some password) => escape .userPassword name ++ ':' :: escape .userPassword password

def authorityString (url : URL) : List Char :=
  if url.scheme = [] && url.host = [] && url.user = none then []
  else if url.omitHost && url.host = [] && url.user = none then []
  else
    (if url.host ≠ [] || url.path ≠ [] || url.user ≠ none then "//".toList else []) ++
      ((url.user.map fun user => userString user ++ ['@']).getD [] ++ escape .host url.host)

def hierarchyString (url : URL) : List Char :=
  let path := escapedPath url
  let front := (if url.scheme = [] then [] else url.scheme ++ [':']) ++ authorityString url
  if path ≠ [] && path.head? ≠ some '/' && url.host ≠ [] then front ++ '/' :: path
  else if front = [] && (cutAt '/' path).1.contains ':' then "./".toList ++ path
  else front ++ path

def string (url : URL) : List Char :=
  (if url.opaquePart ≠ [] then (if url.scheme = [] then [] else url.scheme ++ [':']) ++ url.opaquePart
    else hierarchyString url) ++
    ((if url.forceQuery || url.rawQuery ≠ [] then '?' :: url.rawQuery else []) ++
      (if url.fragment ≠ [] then '#' :: escapedOr .fragment url.rawFragment url.fragment else []))

def parseQuery (query : List Char) : List (List Char × List Char) :=
  (query.splitOn '&').filterMap fun pair =>
    if pair = [] || pair.contains ';' then none
    else match unescape .query (cutAt '=' pair).1,unescape .query (cutAt '=' pair).2 with
      | .ok key,.ok value => some (key,value)
      | _,_ => none

def queryGet (url : URL) (key : List Char) : List Char :=
  (((parseQuery url.rawQuery).find? (·.1 = key)).map (·.2)).getD []

/-! A URL of a scheme, a host and a path that need no escaping. -/

variable {c : Char} {part : Part} {s : List Char}

lemma unreserved_toNat (plain : unreserved c) : 33 ≤ c.toNat ∧ c.toNat < 127 := by
  simp only [unreserved,Bool.or_eq_true] at plain
  rcases plain with letter | mark
  · simp only [Char.isAlphanum,Char.isAlpha,Char.isUpper,Char.isLower,Char.isDigit,Bool.or_eq_true,Bool.and_eq_true,
      decide_eq_true_eq,UInt32.le_iff_toNat_le,ge_iff_le] at letter
    simp at letter
    omega
  · have mem : c ∈ ['-','_','.','~'] := by simpa using mark
    simp only [mem_cons,not_mem_nil,or_false] at mem
    rcases mem with rfl | rfl | rfl | rfl <;> decide

def pathChar (c : Char) : Bool := unreserved c || c = '/'

lemma pathChar_ne {other : Char} (plain : pathChar c) (special : pathChar other = false) : c ≠ other := by
  rintro rfl
  rw [plain] at special
  cases special

lemma pathChar_of_unreserved (plain : unreserved c) : pathChar c := by simp [pathChar,plain]

lemma unescape_plain (plain : ∀ c ∈ s, c ≠ '%' ∧ plainChar part c = .ok c) : unescape part s = .ok s := by
  induction s with
  | nil => rfl
  | cons c s ih =>
    obtain ⟨other,here⟩ := plain c mem_cons_self
    have rest := ih fun c mem => plain c (mem_cons_of_mem _ mem)
    rw [unescape]
    · simp only [here,rest]
      rfl
    · exact fun _ _ _ same _ => other same
    · exact other

lemma escape_plain (plain : ∀ c ∈ s, shouldEscape part c = false) : escape part s = s := by
  induction s with
  | nil => rfl
  | cons c s ih =>
    have rest := ih fun c mem => plain c (mem_cons_of_mem _ mem)
    simp only [escape,flatMap_cons,plain c mem_cons_self,Bool.not_false,↓reduceIte] at rest ⊢
    rw [rest]
    rfl

lemma shouldEscape_path (plain : pathChar c) : shouldEscape .path c = false := by
  simp only [pathChar,Bool.or_eq_true,decide_eq_true_eq] at plain
  rcases plain with plain | rfl
  · simp [shouldEscape,plain]
  · decide

lemma plainChar_path : plainChar .path c = .ok c := by simp [plainChar]

lemma plainChar_host (plain : unreserved c) : plainChar .host c = .ok c := by simp [plainChar,shouldEscape,plain]

lemma cutAt_of_not_mem {separator : Char} (free : separator ∉ s) : cutAt separator s = (s,[]) := by
  have all : ∀ c ∈ s, decide (c ≠ separator) = true := fun c mem => by simpa using ne_of_mem_of_not_mem mem free
  rw [cutAt,takeWhile_eq_self_iff.mpr all,dropWhile_eq_nil_iff.mpr all]
  rfl

lemma not_mem_of_path {special : Char} (plain : ∀ c ∈ s, pathChar c) (other : pathChar special = false) :
    special ∉ s := fun mem => pathChar_ne (plain special mem) other rfl

section
variable {ipLiteral : List Char → Except ParseError (List Char)} {scheme host path : List Char}

lemma parseHost_plain (plain : ∀ c ∈ host, unreserved c) : parseHost ipLiteral host = .ok host := by
  have free (special : Char) (other : pathChar special = false) : special ∉ host :=
    not_mem_of_path (fun c mem => pathChar_of_unreserved (plain c mem)) other
  have bracket : host.head? ≠ some '[' := fun here => free '[' (by decide) (mem_of_mem_head? here)
  have colon : host.contains ':' = false := by simpa using free ':' (by decide)
  simp only [parseHost,bracket,colon,Bool.false_and,Bool.false_eq_true,↓reduceIte]
  refine unescape_plain fun c mem => ⟨?_,plainChar_host (plain c mem)⟩
  exact pathChar_ne (pathChar_of_unreserved (plain c mem)) (by decide)

lemma parseAuthority_plain (plain : ∀ c ∈ host, unreserved c) : parseAuthority ipLiteral host = .ok (none,host) := by
  have free : '@' ∉ host := not_mem_of_path (fun c mem => pathChar_of_unreserved (plain c mem)) (by decide)
  have whole : host.rtakeWhile (· ≠ '@') = host := by
    rw [rtakeWhile_eq_self_iff]
    exact fun c mem => by simpa using ne_of_mem_of_not_mem mem free
  have none : host.contains '@' = false := by simpa using free
  simp only [parseAuthority,whole,parseHost_plain plain,none]
  rfl

lemma setPath_plain (url : URL) (plain : ∀ c ∈ path, pathChar c) : setPath url path = .ok { url with path, rawPath := [] } := by
  have read : unescape .path path = .ok path :=
    unescape_plain fun c mem => ⟨pathChar_ne (plain c mem) (by decide),plainChar_path⟩
  have written : escape .path path = path := escape_plain fun c mem => shouldEscape_path (plain c mem)
  simp only [setPath,read,bind,Except.bind,written,↓reduceIte]
  rfl

lemma cutQuery_plain {rest : List Char} (plain : ∀ c ∈ rest, pathChar c) : cutQuery rest = (false,rest,[]) := by
  have free : '?' ∉ rest := not_mem_of_path plain (by decide)
  have last : rest.getLast? ≠ some '?' := fun here => free (mem_of_getLast? here)
  simp only [cutQuery,last,decide_false,Bool.false_and,Bool.false_eq_true,↓reduceIte,cutAt_of_not_mem free]

def plainText (scheme host path : List Char) : List Char := scheme ++ ':' :: '/' :: '/' :: (host ++ path)

lemma getScheme_plain (letters : ∀ c ∈ scheme, c.isLower) (named : scheme ≠ []) (rest : List Char) :
    getScheme (scheme ++ ':' :: rest) = .ok (scheme,rest) := by
  have lower : ∀ c ∈ scheme, schemeChar c = true := fun c mem => by
    simp [schemeChar,Char.isAlphanum,Char.isAlpha,letters c mem]
  have front : (scheme ++ ':' :: rest).takeWhile schemeChar = scheme := by
    rw [takeWhile_append_of_pos lower]
    simp [schemeChar]
  have back : (scheme ++ ':' :: rest).dropWhile schemeChar = ':' :: rest := by
    rw [dropWhile_append_of_pos lower]
    exact dropWhile_cons_of_neg (by decide)
  rw [getScheme,front,back]
  cases scheme with
  | nil => exact absurd rfl named
  | cons first scheme => simp [Char.isAlpha,letters first mem_cons_self]

variable {c : Char}

lemma toLower_of_isLower (letter : c.isLower) : c.toLower = c := by
  simp only [Char.isLower,Bool.and_eq_true,decide_eq_true_eq] at letter
  have low : 97 ≤ c.toNat := letter.1
  have small : ¬(c.val ≥ 'A'.val ∧ c.val ≤ 'Z'.val) := by
    rintro ⟨-,top⟩
    have high : c.toNat ≤ 90 := top
    omega
  exact dif_neg small

lemma isLower_toNat (letter : c.isLower) : 97 ≤ c.toNat ∧ c.toNat ≤ 122 := by
  simpa [Char.isLower,UInt32.le_iff_toNat_le] using letter

lemma pathChar_toNat (plain : pathChar c) : 33 ≤ c.toNat ∧ c.toNat < 127 := by
  simp only [pathChar,Bool.or_eq_true,decide_eq_true_eq] at plain
  rcases plain with plain | rfl
  · exact unreserved_toNat plain
  · decide

lemma parseBody_plain (letters : ∀ c ∈ scheme, c.isLower) (named : scheme ≠ []) (plain : ∀ c ∈ host, unreserved c)
    (plainPath : ∀ c ∈ path, pathChar c) (rooted : path.head? = some '/') :
    parseBody ipLiteral (plainText scheme host path) = .ok { scheme, host, path } := by
  have hostPath : ∀ c ∈ host, pathChar c := fun c mem => pathChar_of_unreserved (plain c mem)
  have restPath : ∀ c ∈ '/' :: '/' :: (host ++ path), pathChar c := by
    intro c mem
    simp only [mem_cons,mem_append] at mem
    rcases mem with rfl | rfl | mem | mem
    · rfl
    · rfl
    · exact hostPath c mem
    · exact plainPath c mem
  have visible : (plainText scheme host path).any (fun c => c.toNat < 32 || c.toNat = 127) = false := by
    rw [any_eq_false]
    intro c mem
    have bounds : 33 ≤ c.toNat ∧ c.toNat < 127 := by
      rcases mem_append.mp mem with mem | mem
      · have bounds := isLower_toNat (letters c mem)
        omega
      rcases mem_cons.mp mem with rfl | mem
      · decide
      · exact pathChar_toNat (restPath c mem)
    simp
    omega
  have star : plainText scheme host path ≠ ['*'] := by
    intro same
    have length := congrArg List.length same
    simp [plainText] at length
    omega
  have lower : scheme.map Char.toLower = scheme := by
    rw [map_congr_left fun c mem => toLower_of_isLower (letters c mem),map_id']
  have slashFree : '/' ∉ host := fun mem => absurd (plain '/' mem) (by decide)
  have hostFront : ∀ c ∈ host, decide (c ≠ '/') = true := fun c mem => by
    simpa using ne_of_mem_of_not_mem mem slashFree
  have front : (host ++ path).takeWhile (· ≠ '/') = host := by
    rw [takeWhile_append_of_pos hostFront]
    cases path with
    | nil => cases rooted
    | cons c path => simp_all
  have back : (host ++ path).dropWhile (· ≠ '/') = path := by
    rw [dropWhile_append_of_pos hostFront]
    cases path with
    | nil => cases rooted
    | cons c path => simp_all
  have found : getScheme (plainText scheme host path) = .ok (scheme,'/' :: '/' :: (host ++ path)) :=
    getScheme_plain letters named _
  have slashes : "//".toList.isPrefixOf ('/' :: '/' :: (host ++ path)) = true := rfl
  simp only [parseBody,visible,star,found,cutQuery_plain restPath,lower,bind,Except.bind,slashes,head?_cons,ne_eq,
    not_true_eq_false,decide_false,Bool.false_and,Bool.false_eq_true,↓reduceIte,named,not_false_eq_true,decide_true,
    Bool.true_or,Bool.and_true,drop_succ_cons,drop_zero]
  simp only [ne_eq] at front back
  rw [front,back,parseAuthority_plain plain]
  exact setPath_plain _ plainPath

lemma parse_plain (letters : ∀ c ∈ scheme, c.isLower) (named : scheme ≠ []) (plain : ∀ c ∈ host, unreserved c)
    (plainPath : ∀ c ∈ path, pathChar c) (rooted : path.head? = some '/') :
    parse ipLiteral (plainText scheme host path) = .ok { scheme, host, path } := by
  have free : '#' ∉ plainText scheme host path := by
    simp only [plainText,mem_append,mem_cons,not_or]
    refine ⟨fun mem => ?_,by decide,by decide,by decide,?_,not_mem_of_path plainPath (by decide)⟩
    · exact absurd (letters '#' mem) (by decide)
    · exact not_mem_of_path (fun c mem => pathChar_of_unreserved (plain c mem)) (by decide)
  simp only [parse,cutAt_of_not_mem free,parseBody_plain letters named plain plainPath rooted]
  rfl

lemma string_plain (named : scheme ≠ []) (plain : ∀ c ∈ host, unreserved c) (plainPath : ∀ c ∈ path, pathChar c)
    (rooted : path.head? = some '/') : string { scheme, host, path } = plainText scheme host path := by
  have some : path ≠ [] := by
    rintro rfl
    cases rooted
  have star : path ≠ ['*'] := by
    rintro rfl
    simp at rooted
  have hostText : escape .host host = host := escape_plain fun c mem => by simp [shouldEscape,plain c mem]
  have pathText : escape .path path = path := escape_plain fun c mem => shouldEscape_path (plainPath c mem)
  simp [string,hierarchyString,authorityString,escapedPath,escapedOr,plainText,named,some,star,rooted,hostText,pathText]

end

end SysArmor.GoUrl
