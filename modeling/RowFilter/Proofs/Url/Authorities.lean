import Mathlib.Data.List.TakeWhile
import RowFilter.Proofs.Number.Digits
import RowFilter.Proofs.Url.PercentEncoding

/-!
# Authorities read back

A URL that names a user with a password, a host, a port and one segment of a path is split at the
marks between these parts. The parts come out as they were written, since none of them holds such a
mark; only a segment of dots is gone, and a host is encoded where it is not of visible characters.
-/

namespace RowFilter.Text

theorem splitAtLast?_of_not_mem {separator : Char} {text : List Char} (absent : separator ∉ text) :
    splitAtLast? separator text = none := by
  induction text with
  | nil => rfl
  | cons c rest ih =>
      rw [List.mem_cons, not_or] at absent
      rw [splitAtLast?, ih absent.2]
      exact if_neg (Ne.symm absent.1)

theorem splitAtLast?_append {separator : Char} (before : List Char) {after : List Char}
    (absent : separator ∉ after) :
    splitAtLast? separator (before ++ separator :: after) = some (before, after) := by
  induction before with
  | nil => rw [List.nil_append, splitAtLast?, splitAtLast?_of_not_mem absent]; exact if_pos rfl
  | cons c rest ih => rw [List.cons_append, splitAtLast?, ih]

end RowFilter.Text

namespace RowFilter.Url

open Number Text

/-- Whether every character may stand bare in a user name, a password or a segment of a path. -/
def IsBare (text : List Char) : Prop := ∀ c ∈ text, isOutsideUserinfo c = false

/-- Whether a text may be a host: it is not empty, and no character is one that no host may have. -/
def IsHostName (text : List Char) : Prop :=
  text ≠ [] ∧ ∀ c ∈ text, Domain.isOutsideHost c = false

theorem isBare_percentEncoded {outside : Char → Bool} (covers : CoversReserved outside)
    (text : String) : IsBare (percentEncoded outside text).toList :=
  fun _ => isOutsideUserinfo_of_mem_percentEncoded covers

variable {user password host segment : List Char} {port : Nat}

theorem IsBare.ne {text : List Char} (bare : IsBare text) {mark : Char}
    (reserved : isOutsideUserinfo mark = true) {c : Char} (member : c ∈ text) : c ≠ mark := by
  rintro rfl
  rw [bare c member] at reserved
  cases reserved

theorem IsHostName.ne {text : List Char} (name : IsHostName text) {mark : Char}
    (reserved : Domain.isOutsideHost mark = true) {c : Char} (member : c ∈ text) : c ≠ mark := by
  rintro rfl
  rw [name.2 c member] at reserved
  cases reserved

theorem isOutsideHost_of_isOutsideUserinfo {c : Char} (bare : isOutsideUserinfo c = false) :
    Domain.isOutsideHost c = false := by
  have covered : ("\x00\t\n\r #/:<>?@[\\]^|".toList.all isOutsideUserinfo) = true := by decide
  rw [Bool.eq_false_iff]
  intro reserved
  rw [List.all_eq_true.mp covered c (List.contains_iff_mem.mp reserved)] at bare
  cases bare

/-- A host stays one when it is encoded. -/
theorem isHostName_percentEncoded {outside : Char → Bool} {text : String}
    (name : IsHostName text.toList) : IsHostName (percentEncoded outside text).toList := by
  constructor
  · intro empty
    exact percentEncoded_ne_empty (fun none => name.1 (String.toList_eq_nil_iff.mpr none))
      (String.toList_eq_nil_iff.mp empty)
  · intro c member
    rw [percentEncoded, String.toList_ofList] at member
    rcases mem_encodeIf member with bare | source
    · exact isOutsideHost_of_isOutsideUserinfo bare
    · exact name.2 c source.1

/-! ### The parts of an authority -/

theorem readUserinfo_bare (bareUser : IsBare user) (barePassword : IsBare password)
    (full : password ≠ []) :
    readUserinfo (user ++ ':' :: password) =
      (String.ofList user, some (String.ofList password)) := by
  have split : (user ++ ':' :: password).span (· ≠ ':') = (user, ':' :: password) :=
    span_append_cons (fun c member => decide_eq_true (bareUser.ne (by decide) member)) (by decide)
  have kept : ¬ password.isEmpty = true := by simpa using full
  rw [readUserinfo, split]
  dsimp only
  rw [List.drop_one, List.tail_cons, if_neg kept, encodeIf_eq_self bareUser,
    encodeIf_eq_self barePassword]

theorem splitHost_append (name : ∀ c ∈ host, Domain.isOutsideHost c = false) (rest : List Char) :
    splitHost false (host ++ ':' :: rest) = (host, ':' :: rest) := by
  induction host with
  | nil => rfl
  | cons c host ih =>
      rw [List.forall_mem_cons] at name
      have others : ∀ mark, Domain.isOutsideHost mark = true → c ≠ mark := by
        rintro mark reserved rfl
        rw [name.1] at reserved
        cases reserved
      have noColon : c ≠ ':' := others ':' (by decide)
      have noOpening : c ≠ '[' := others '[' (by decide)
      have noClosing : c ≠ ']' := others ']' (by decide)
      rw [List.cons_append, splitHost]
      simp only [noColon, noOpening, noClosing, decide_false, Bool.false_and, Bool.false_eq_true,
        if_false, ih name.2]

theorem readHost_name (name : IsHostName host) :
    readHost host = .ok (String.ofList (encodeIf isControl host)) := by
  have noBracket : ¬ host.head? = some '[' := by
    intro opening
    exact name.ne (by decide) (List.mem_of_mem_head? opening) rfl
  have fits : ¬ host.any Domain.isOutsideHost = true := by
    simpa using name.2
  rw [readHost, if_neg noBracket, if_neg fits]

/-- A port is read back from its digits. -/
theorem readPort_toDigits (small : port ≤ 65535) :
    readPort (Nat.toDigits 10 port) = .ok (some port, []) := by
  have digits : spanDigits (Nat.toDigits 10 port) = (digitValues (Nat.toDigits 10 port), []) := by
    have each : ∀ c ∈ Nat.toDigits 10 port, c.isDigit = true := fun c member =>
      Nat.isDigit_of_mem_toDigits (by decide) (by decide) member
    have stops : ∀ c ∈ ([] : List Char).head?, c.isDigit = false := nofun
    rw [← spanDigits_append each stops, List.append_nil]
  have value : positional 10 (digitValues (Nat.toDigits 10 port)) = port := by
    rw [positional_digitValues, Nat.ofDigitChars_ten_toDigits]
  have some_digit : ¬ (digitValues (Nat.toDigits 10 port)).isEmpty = true := by
    simp [digitValues, Nat.toDigits_ne_nil]
  rw [readPort, digits]
  dsimp only
  rw [value, if_neg (Nat.not_lt.mpr small), if_pos (show (List.isEmpty [] || _) = true from rfl),
    if_neg some_digit]

/-! ### The path -/

theorem splitQuery_of_isBare (bare : IsBare segment) :
    splitQuery ('/' :: segment) = ('/' :: segment, []) := by
  have noFragment : ('/' :: segment).takeWhile (· ≠ '#') = '/' :: segment := by
    rw [List.takeWhile_eq_self_iff, List.forall_mem_cons]
    exact ⟨by decide, fun c member => decide_eq_true (bare.ne (by decide) member)⟩
  have noQuery : ∀ c ∈ '/' :: segment, decide (c ≠ '?') = true := by
    rw [List.forall_mem_cons]
    exact ⟨by decide, fun c member => decide_eq_true (bare.ne (by decide) member)⟩
  rw [splitQuery, noFragment, List.span_eq_takeWhile_dropWhile,
    List.takeWhile_eq_self_iff.mpr noQuery, List.dropWhile_eq_nil_iff.mpr noQuery]
  rfl

/-- A path of one segment is kept unless it is a segment of dots, of which nothing stays. -/
theorem hierarchicalPath_of_isBare (bare : IsBare segment) :
    hierarchicalPath ('/' :: segment) =
      if isSingleDot segment || isDoubleDot segment then "/"
      else String.ofList ('/' :: segment) := by
  have kept : encodeIf isOutsidePath segment = segment := by
    apply encodeIf_eq_self
    intro c member
    have outside := bare c member
    rw [isOutsideUserinfo, Bool.or_eq_false_iff] at outside
    exact outside.1
  have single : segment.splitOn '/' = [segment] :=
    List.splitOn_eq_singleton fun slash => bare.ne (by decide) slash rfl
  have chars : pathChars ('/' :: segment) =
      if isSingleDot segment || isDoubleDot segment then ['/'] else '/' :: segment := by
    rw [pathChars, kept, single, resolve]
    cases isDoubleDot segment <;> cases isSingleDot segment <;> simp [takeBack]
  rw [hierarchicalPath, if_neg (by simp), chars]
  split_ifs <;> rfl

/-! ### The whole -/

/-- An authority written from its parts. -/
def authorityChars (user password host : List Char) (port : Nat) : List Char :=
  (user ++ ':' :: password) ++ '@' :: (host ++ ':' :: Nat.toDigits 10 port)

theorem ne_of_mem_toDigits {c mark : Char} (member : c ∈ Nat.toDigits 10 port)
    (noDigit : mark.isDigit = false) : c ≠ mark := by
  rintro rfl
  rw [Nat.isDigit_of_mem_toDigits (by decide) (by decide) member] at noDigit
  cases noDigit

theorem endsAuthority_eq_false {c : Char} (noSlash : c ≠ '/') (noQuestion : c ≠ '?')
    (noHash : c ≠ '#') : endsAuthority false c = false := by
  simp [endsAuthority, noSlash, noQuestion, noHash]

/-- No character of the parts ends the authority. -/
theorem endsAuthority_of_mem (bareUser : IsBare user) (barePassword : IsBare password)
    (name : IsHostName host) :
    ∀ c ∈ authorityChars user password host port, endsAuthority false c = false := by
  have bare {text : List Char} (bareText : IsBare text) :
      ∀ c ∈ text, endsAuthority false c = false := fun c member =>
    endsAuthority_eq_false (bareText.ne (by decide) member) (bareText.ne (by decide) member)
      (bareText.ne (by decide) member)
  have hosted : ∀ c ∈ host, endsAuthority false c = false := fun c member =>
    endsAuthority_eq_false (name.ne (by decide) member) (name.ne (by decide) member)
      (name.ne (by decide) member)
  have digits : ∀ c ∈ Nat.toDigits 10 port, endsAuthority false c = false := fun c member =>
    endsAuthority_eq_false (ne_of_mem_toDigits member (by decide))
      (ne_of_mem_toDigits member (by decide)) (ne_of_mem_toDigits member (by decide))
  rw [authorityChars]
  simp only [List.forall_mem_append, List.forall_mem_cons]
  exact ⟨⟨bare bareUser, rfl, bare barePassword⟩, rfl, hosted, rfl, digits⟩

/-- The last at sign of an authority stands between the password and the host. -/
theorem splitAtLast?_authorityChars (name : IsHostName host) :
    splitAtLast? '@' (authorityChars user password host port) =
      some (user ++ ':' :: password, host ++ ':' :: Nat.toDigits 10 port) := by
  apply splitAtLast?_append
  simp only [List.mem_append, List.mem_cons, not_or]
  exact ⟨fun member => name.ne (by decide) member rfl, by decide,
    fun member => ne_of_mem_toDigits member (by decide) rfl⟩

/-- What follows the two slashes is read as the parts that it was written from. -/
theorem readAuthority_written {scheme : String} (plain : isWebScheme scheme = false)
    (bareUser : IsBare user) (barePassword : IsBare password) (full : password ≠ [])
    (name : IsHostName host) (small : port ≤ 65535) (bareSegment : IsBare segment) :
    readAuthority scheme (authorityChars user password host port ++ '/' :: segment) =
      .ok {
        scheme
        user := String.ofList user
        password := some (String.ofList password)
        host := some (String.ofList (encodeIf isControl host))
        port := some port
        path := hierarchicalPath ('/' :: segment) } := by
  have whole : (authorityChars user password host port ++ '/' :: segment).span
      (fun c => !endsAuthority false c) =
        (authorityChars user password host port, '/' :: segment) := by
    apply span_append_cons
    · intro c member
      rw [endsAuthority_of_mem bareUser barePassword name c member]
      rfl
    · decide
  have fullUserinfo : (user ++ ':' :: password).isEmpty = false := by simp
  have fullHost : (String.ofList (encodeIf isControl host)).isEmpty = false := by
    have least := (length_encodeIf isControl host).1
    have some_char := List.length_pos_iff.mpr name.1
    rw [String.isEmpty_eq_false_iff, ne_eq, ← String.toList_inj, String.toList_ofList]
    exact List.ne_nil_of_length_pos (Nat.lt_of_lt_of_le some_char least)
  simp only [readAuthority, plain, whole, splitAtLast?_authorityChars name, Option.getD_some,
    readUserinfo_bare bareUser barePassword full, splitHost_append name.2, readHost_name name,
    readPortOrEnd, readPort_toDigits small, fullUserinfo, fullHost, Bool.and_false, Bool.false_and,
    Bool.false_eq_true, if_false, bind, Except.bind, withPathAndQuery, List.nil_append,
    splitQuery_of_isBare bareSegment]
  rfl

/-! ### Margins -/

theorem isMargin_of_isOutsideUserinfo {c : Char} (bare : isOutsideUserinfo c = false) :
    isMargin c = false := by
  have visible := isControl_of_isOutsideUserinfo bare
  rw [isControl, Bool.or_eq_false_iff, decide_eq_false_iff_not] at visible
  rw [isMargin, decide_eq_false_iff_not]
  intro margin
  have space : c = ' ' := Char.toNat_inj.mp (show c.toNat = 0x20 by omega)
  rw [space] at bare
  exact absurd bare (by decide)

/-- A text that neither begins nor ends with a blank or a control and holds no tab and no line break
is not stripped of anything. -/
theorem stripped_eq_self {text : List Char} (first : ∀ c ∈ text.head?, isMargin c = false)
    (last : ∀ c ∈ text.getLast?, isMargin c = false)
    (inside : ∀ c ∈ text, c ≠ '\t' ∧ c ≠ '\n' ∧ c ≠ '\r') : stripped text = text := by
  have start {text : List Char} (first : ∀ c ∈ text.head?, isMargin c = false) :
      text.dropWhile isMargin = text := by
    cases text with
    | nil => rfl
    | cons c rest =>
        rw [List.dropWhile_cons_of_neg]
        rw [first c rfl]
        exact Bool.false_ne_true
  have kept : text.filter (fun c => !(c = '\t' || c = '\n' || c = '\r')) = text := by
    rw [List.filter_eq_self]
    intro c member
    simp [inside c member]
  rw [stripped, start first, start (by rwa [List.head?_reverse]), List.reverse_reverse, kept]

end RowFilter.Url
