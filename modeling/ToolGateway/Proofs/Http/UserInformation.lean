/-
# User information

User information ends at the last at sign in front of the path.  An address is read, taken from the
root and given a query before it is sent, and on this way it is written and read again, its host
encoded twice.  None of the encodings of a host has an at sign that was not in it
(`noAt_encodeHost`), and user information is encoded only once, so it stays as it is
(`Settled.userinfo_withQuery`).  A path that is put behind an address brings no user either, since
the authority ends in front of it (`user?_append`).  So the headers of a request are those of its
draft, with those of the user whom the address of the draft names (`Draft.headers_of_request`).
-/

import ToolGateway.Proofs.Http.Exchange
import Mathlib.Data.List.TakeDrop
import Mathlib.Data.List.TakeWhile

namespace ToolGateway

/-! ### At signs -/

namespace Text

/-- The characters are without an at sign. -/
def NoAt (cs : List Char) : Prop := '@' ∉ cs

instance (cs : List Char) : Decidable (NoAt cs) := inferInstanceAs (Decidable ('@' ∉ cs))

namespace NoAt

theorem of_subset {cs ds : List Char} (hd : NoAt ds) (h : cs ⊆ ds) : NoAt cs := fun hm => hd (h hm)

theorem append {cs ds : List Char} (hc : NoAt cs) (hd : NoAt ds) : NoAt (cs ++ ds) :=
  fun h => (List.mem_append.1 h).elim hc hd

theorem flatMap {α : Type} {xs : List α} {f : α → List Char} (h : ∀ x ∈ xs, NoAt (f x)) :
    NoAt (xs.flatMap f) := by
  intro hm
  obtain ⟨x, hx, hc⟩ := List.mem_flatMap.1 hm
  exact h x hx hc

theorem intercalate {sep : String} {parts : List String} (hsep : NoAt sep.toList)
    (h : ∀ p ∈ parts, NoAt p.toList) : NoAt (sep.intercalate parts).toList := by
  rw [String.toList_intercalate]
  induction parts with
  | nil => exact List.not_mem_nil
  | cons p rest ih =>
    have hp := h p List.mem_cons_self
    cases rest with
    | nil => simpa [List.intercalate] using hp
    | cons q rest =>
      have hrest := ih fun r hr => h r (List.mem_cons_of_mem p hr)
      simpa [List.intercalate, NoAt] using hp.append (hsep.append hrest)

end NoAt

theorem eq_at_of_ofNat {n : Nat} (h : Char.ofNat n = '@') : n = 64 := by
  by_cases hn : n.isValidChar
  · have hchar : Char.ofNat n = Char.ofNatAux n hn := dif_pos hn
    exact congrArg Char.toNat (hchar.symm.trans h)
  · have hchar : Char.ofNat n = '\x00' := dif_neg hn
    cases hchar.symm.trans h

theorem eq_at_of_toLower {c : Char} (h : c.toLower = '@') : c = '@' := by
  unfold Char.toLower at h
  split at h
  · rename_i hc
    have hval := congrArg (UInt32.toNat ∘ Char.val) h
    simp [UInt32.le_iff_toNat_le] at hc hval
    omega
  · exact h

theorem eq_at_of_mem_lowerChar {c : Char} (h : '@' ∈ lowerChar c) : c = '@' := by
  -- Every run of the table leads behind the at sign.
  have runs : ∀ r ∈ lowerRuns.toList, 64 < r.1 + r.2.2.2 := by decide +kernel
  unfold lowerChar at h
  split at h
  · exact eq_at_of_toLower (List.mem_singleton.1 h).symm
  · split at h
    · exact absurd h (by decide)
    · split at h
      · rename_i hfound
        have hrun := runs _ (Array.mem_toList_iff.2 (Array.mem_of_find?_eq_some hfound))
        have hfits := Array.find?_some hfound
        have hat := eq_at_of_ofNat (List.mem_singleton.1 h).symm
        simp at hrun hfits
        omega
      · exact (List.mem_singleton.1 h).symm

/-- Lower case brings no at sign. -/
theorem NoAt.lower {s : String} (h : NoAt s.toList) : NoAt (lower s).toList := by
  have passed : ∀ (cs before : List Char), NoAt cs → NoAt (lowerFrom before cs) := by
    intro cs
    induction cs with
    | nil => exact fun _ h => h
    | cons c rest ih =>
      intro before hc
      have hrest := ih (c :: before) fun hm => hc (List.mem_cons_of_mem c hm)
      rw [lowerFrom]
      refine NoAt.append ?_ hrest
      split
      · split <;> decide
      · exact fun hm => hc (eq_at_of_mem_lowerChar hm ▸ List.mem_cons_self)
  unfold Text.lower
  rw [String.toList_ofList]
  exact passed s.toList [] h

/-! ### Codes of labels -/

namespace Punycode

theorem noAt_digit {d : Nat} (h : d < 36) : digit d ≠ '@' := by
  have : ∀ d < 36, digit d ≠ '@' := by decide +kernel
  exact this d h

theorem threshold_pos (k bias : Nat) : 1 ≤ threshold k bias := by
  unfold threshold
  split
  · exact Nat.le_refl 1
  · split <;> omega

theorem threshold_le (k bias : Nat) : threshold k bias ≤ 26 := by
  unfold threshold
  split
  · omega
  · split <;> omega

/-- The digits of a distance end before the fuel does, so all of them are digits. -/
theorem noAt_digits (bias fuel k q : Nat) (h : q ≤ fuel) : NoAt (digits bias fuel k q) := by
  induction fuel generalizing k q with
  | zero =>
    obtain rfl := Nat.le_zero.1 h
    exact show NoAt ['a'] by decide
  | succ fuel ih =>
    have hpos := threshold_pos k bias
    have hle := threshold_le k bias
    rw [digits]
    split
    · intro hm
      exact noAt_digit (by omega) (List.mem_singleton.1 hm).symm
    · have hrest : (q - threshold k bias) / (36 - threshold k bias) ≤ fuel :=
        (Nat.div_le_self _ _).trans (by omega)
      have hmod := Nat.mod_lt (q - threshold k bias) (show 0 < 36 - threshold k bias by omega)
      intro hm
      rcases List.mem_cons.1 hm with hm | hm
      · exact noAt_digit (by omega) hm.symm
      · exact ih _ _ hrest hm

theorem noAt_codePoint (n : Nat) (cs : List Nat) (s : Coder) : NoAt (codePoint n cs s).1 := by
  induction cs generalizing s with
  | nil => exact List.not_mem_nil
  | cons c rest ih =>
    rw [codePoint]
    split
    · exact ih _
    · split
      · exact (noAt_digits _ _ _ _ (Nat.le_refl _)).append (ih _)
      · exact ih _

theorem noAt_codeFrom (points : List Nat) (fuel : Nat) (s : Coder) :
    NoAt (codeFrom points fuel s) := by
  induction fuel generalizing s with
  | zero => exact List.not_mem_nil
  | succ fuel ih =>
    rw [codeFrom]
    split
    · exact List.not_mem_nil
    · exact (noAt_codePoint _ _ _).append (ih _)

/-- A code has an at sign only if its label has one. -/
theorem noAt_encode {label : List Char} (h : NoAt label) : NoAt (encode (label.map Char.toNat)) := by
  unfold encode
  refine NoAt.append ?_ (noAt_codeFrom _ _ _)
  split
  · exact List.not_mem_nil
  · refine NoAt.append (fun hm => ?_) (by decide)
    obtain ⟨n, hn, hat⟩ := List.mem_map.1 hm
    obtain ⟨c, hc, rfl⟩ := List.mem_map.1 (List.mem_filter.1 hn).1
    rw [Char.ofNat_toNat] at hat
    exact h (hat ▸ hc)

end Punycode
end Text

namespace Http

open Text

/-! ### Hosts -/

theorem noAt_percentEncode {keep : Char → Bool} (h : keep '@' = false) (s : String) :
    NoAt (percentEncode keep s).toList := by
  have octet : ∀ n < 256, '@' ∉ percentOctet (UInt8.ofNat n) := by decide +kernel
  unfold percentEncode
  rw [String.toList_ofList]
  refine NoAt.flatMap fun c _ => ?_
  split
  · rename_i hk
    intro hm
    rw [← List.mem_singleton.1 hm, h] at hk
    cases hk
  · refine NoAt.flatMap fun b _ => ?_
    have hb := octet b.toNat b.toNat_lt
    rwa [UInt8.ofNat_toNat] at hb

namespace HostName

theorem noAt_toAscii_label {label out : List Char} (hl : NoAt label)
    (h : Label.toAscii label = .ok out) : NoAt out := by
  unfold Label.toAscii at h
  dsimp only at h
  split at h
  · obtain ⟨_, _, h⟩ := exists_of_bind_eq_ok h
    rw [pure_bind] at h
    split at h
    · cases h
    · cases h
      exact hl
  · obtain ⟨_, _, h⟩ := exists_of_bind_eq_ok h
    rw [pure_bind] at h
    split at h
    · cases h
    · cases h
      exact NoAt.append (by decide) (Punycode.noAt_encode hl)

/-- The parts between dots are parts of the whole. -/
theorem subset_of_mem_splitOnP {p : Char → Bool} {cs part : List Char}
    (h : part ∈ cs.splitOnP p) : part ⊆ cs := by
  induction cs generalizing part with
  | nil =>
    simp at h
    simp [h]
  | cons c rest ih =>
    rw [List.splitOnP_cons_eq_if_modifyHead] at h
    split at h
    · rcases List.mem_cons.1 h with rfl | h
      · exact List.nil_subset _
      · exact List.subset_cons_of_subset c (ih h)
    · cases hs : rest.splitOnP p with
      | nil =>
        rw [hs] at h
        cases h
      | cons first more =>
        rw [hs] at h
        rcases List.mem_cons.1 h with rfl | h
        · exact List.cons_subset_cons c (ih (hs ▸ List.mem_cons_self))
        · exact List.subset_cons_of_subset c (ih (hs ▸ List.mem_cons_of_mem first h))

theorem subset_of_mem_labels {name : List Char} {ls : List (List Char)} {dotted : Bool}
    (h : labels name = .ok (ls, dotted)) {l : List Char} (hl : l ∈ ls) : l ⊆ name := by
  unfold labels at h
  dsimp only at h
  split at h
  · cases h
  · split at h
    · cases h
    · split at h
      · cases h
        exact subset_of_mem_splitOnP (List.dropLast_subset _ hl)
      · cases h
        exact subset_of_mem_splitOnP hl

theorem noAt_toAscii {name out : String} (hn : NoAt name.toList) (h : toAscii name = .ok out) :
    NoAt out.toList := by
  unfold toAscii at h
  obtain ⟨⟨ls, dotted⟩, hls, h⟩ := exists_of_bind_eq_ok h
  obtain ⟨coded, hcoded, h⟩ := exists_of_bind_eq_ok h
  have hlabels : ∀ l ∈ ls, NoAt l := fun l hl => hn.lower.of_subset (subset_of_mem_labels hls hl)
  have hjoined : NoAt (".".intercalate (coded.map String.ofList)).toList := by
    refine NoAt.intercalate (by decide) fun p hp => ?_
    obtain ⟨cs, hcs, rfl⟩ := List.mem_map.1 hp
    obtain ⟨l, hl, hlabel⟩ := exists_of_mem_mapM hcoded hcs
    rw [String.toList_ofList]
    exact noAt_toAscii_label (hlabels l hl) hlabel
  dsimp only at h
  split at h
  · cases h
  · cases h
    split
    · rw [String.toList_append]
      exact hjoined.append (by decide)
    · exact hjoined

end HostName

namespace Url

/-- No encoding of a host brings an at sign. -/
theorem noAt_encodeHost {host out : String} (hh : NoAt host.toList) (h : encodeHost host = .ok out) :
    NoAt out.toList := by
  unfold encodeHost at h
  dsimp only at h
  split at h
  · cases h
    exact List.not_mem_nil
  split at h
  · split at h
    · cases h
      exact hh
    · cases h
  split at h
  · split at h
    · cases h
      rw [String.toList_ofList]
      exact hh.of_subset fun c hc => List.mem_of_mem_drop (List.dropLast_subset _ hc)
    · cases h
  split at h
  · cases h
    exact noAt_percentEncode (by decide) _
  · split at h
    · rename_i hname
      cases h
      exact HostName.noAt_toAscii hh hname
    · cases h

/-! ### Authorities -/

/-- What stands behind the last at sign has none. -/
theorem noAt_host_of_splitAuthority (authority : String) :
    NoAt (splitAuthority authority).2.1.toList := by
  unfold splitAuthority
  dsimp only
  rw [String.toList_ofList]
  have hbehind : NoAt (authority.toList.reverse.takeWhile (· != '@')).reverse := fun hm => by
    simpa using List.mem_takeWhile_imp (List.mem_reverse.1 hm)
  refine hbehind.of_subset ?_
  split
  · intro c hc
    exact List.mem_reverse.1 ((List.dropWhile_suffix _).subset (List.mem_reverse.1 hc))
  · exact (List.takeWhile_prefix _).subset

/-- What stands in front of the last at sign is user information. -/
theorem splitAuthority_append {info behind : String} (h : NoAt behind.toList) :
    (splitAuthority (info ++ "@" ++ behind)).1 = info := by
  have htext : (info ++ "@" ++ behind).toList = info.toList ++ ['@'] ++ behind.toList := by simp
  have hbehind : (info.toList ++ ['@'] ++ behind.toList).reverse.takeWhile (· != '@')
      = behind.toList.reverse := by
    rw [List.reverse_append, List.takeWhile_append_of_pos fun c hc => ?_]
    · simp
    · simpa using fun hat : c = '@' => h (hat ▸ List.mem_reverse.1 hc)
  have hlength : (info.toList ++ ['@'] ++ behind.toList).length - behind.toList.length
      = (info.toList ++ ['@']).length := by
    rw [List.length_append, Nat.add_sub_cancel]
  unfold splitAuthority
  dsimp only
  rw [htext, hbehind, List.reverse_reverse, hlength, List.take_left, List.dropLast_concat,
    String.ofList_toList]

/-- Without an at sign there is no user information. -/
theorem splitAuthority_of_noAt {authority : String} (h : NoAt authority.toList) :
    (splitAuthority authority).1 = "" := by
  have hall : authority.toList.reverse.takeWhile (· != '@') = authority.toList.reverse :=
    List.takeWhile_eq_self_iff.2 fun c hc => by
      simpa using fun hat : c = '@' => h (hat ▸ List.mem_reverse.1 hc)
  unfold splitAuthority
  dsimp only
  rw [hall]
  simp

theorem noAt_toString (n : Int) : NoAt (toString n).toList := by
  have digits (m : Nat) : NoAt (toString m).toList := fun hm => by
    rw [Nat.toString_eq_repr, Nat.toList_repr] at hm
    exact absurd (Nat.isDigit_of_mem_toDigits (by decide) (Nat.le_refl 10) hm) (by decide)
  cases n with
  | ofNat m => exact digits m
  | negSucc m =>
    show NoAt ("-" ++ toString (m + 1)).toList
    rw [String.toList_append]
    exact NoAt.append (by decide) (digits (m + 1))

/-- What an address is made of. -/
theorem ofParts_eq_ok {p : Parts} {u : Url} (h : ofParts p = .ok u) :
    u.scheme = asciiLower p.scheme ∧
      u.userinfo = percentEncode inUserinfo (splitAuthority p.authority).1 ∧
      encodeHost (splitAuthority p.authority).2.1 = .ok u.host ∧
      readPort (splitAuthority p.authority).2.2 p.scheme = .ok u.port := by
  unfold ofParts at h
  obtain ⟨host, hhost, h⟩ := exists_of_bind_eq_ok h
  obtain ⟨port, hport, h⟩ := exists_of_bind_eq_ok h
  dsimp only at h
  split at h
  · cases h
  · split at h
    · split at h
      · cases h
      · split at h
        · cases h
        · cases h
          exact ⟨rfl, rfl, hhost, hport⟩
    · cases h
      exact ⟨rfl, rfl, hhost, hport⟩

/-- The parts of an address with user information make one with any other path from the root. -/
theorem exists_ofParts {p p' : Parts} {u : Url} (h : ofParts p = .ok u) (hu : u.userinfo ≠ "")
    (hscheme : p'.scheme = p.scheme) (hauthority : p'.authority = p.authority)
    (hpath : p'.path = "" ∨ ['/'] <+: p'.path.toList) : ∃ v, ofParts p' = .ok v := by
  obtain ⟨-, hinfo, hhost, hport⟩ := ofParts_eq_ok h
  rw [hinfo] at hu
  have hrooted : ¬ (¬ p'.path = "" ∧ ¬ ['/'] <+: p'.path.toList) :=
    fun ⟨hne, hslash⟩ => hpath.elim hne hslash
  unfold ofParts
  rw [hauthority, hscheme]
  generalize splitAuthority p.authority = parts at hu hhost hport
  obtain ⟨info, host, port⟩ := parts
  dsimp only at hu hhost hport ⊢
  rw [hhost, hport]
  simp [hu, hrooted, bind, Except.bind, pure, Except.pure]

/-! ### Addresses that are written and read again -/

theorem percentEncode_empty : percentEncode inUserinfo "" = "" := rfl

/-- The characters that percent codes are made of stand for themselves. -/
theorem percentEncode_percentEncode (s : String) :
    percentEncode inUserinfo (percentEncode inUserinfo s) = percentEncode inUserinfo s := by
  have octet : ∀ n < 256, (percentOctet (UInt8.ofNat n)).all inUserinfo = true := by decide +kernel
  have hkept : ∀ c ∈ (percentEncode inUserinfo s).toList, inUserinfo c = true := by
    intro c hc
    unfold percentEncode at hc
    rw [String.toList_ofList] at hc
    obtain ⟨d, _, hc⟩ := List.mem_flatMap.1 hc
    split at hc
    · rename_i hd
      exact List.mem_singleton.1 hc ▸ hd
    · obtain ⟨b, _, hc⟩ := List.mem_flatMap.1 hc
      have hb := octet b.toNat b.toNat_lt
      rw [UInt8.ofNat_toNat] at hb
      exact List.all_eq_true.1 hb c hc
  generalize percentEncode inUserinfo s = t at hkept
  unfold percentEncode
  rw [List.flatMap_congr fun c hc => if_pos (hkept c hc), List.flatMap_singleton',
    String.ofList_toList]

/-- The user information stays as it is when the address is written and read again. -/
structure Settled (u : Url) : Prop where
  userinfo : percentEncode inUserinfo u.userinfo = u.userinfo
  host : NoAt u.host.toList

theorem settled_of_ofParts {p : Parts} {u : Url} (h : ofParts p = .ok u) : u.Settled := by
  obtain ⟨-, hinfo, hhost, -⟩ := ofParts_eq_ok h
  refine ⟨?_, noAt_encodeHost (noAt_host_of_splitAuthority p.authority) hhost⟩
  rw [hinfo, percentEncode_percentEncode]

/-- An authority is the host and the port, with the user information in front. -/
theorem authority_eq (u : Url) :
    u.authority = (if u.userinfo = "" then "" else u.userinfo ++ "@") ++ u.hostAndPort := by
  unfold hostAndPort authority
  rw [if_pos rfl, String.empty_append, String.append_assoc]

theorem noAt_hostAndPort {u : Url} (h : NoAt u.host.toList) : NoAt u.hostAndPort.toList := by
  unfold hostAndPort authority
  rw [if_pos rfl, String.empty_append, String.toList_append]
  refine NoAt.append ?_ ?_
  · split
    · rw [String.toList_append, String.toList_append]
      exact (NoAt.append (by decide) h).append (by decide)
    · exact h
  · split
    · rw [String.toList_append]
      exact NoAt.append (by decide) (noAt_toString _)
    · exact List.not_mem_nil

theorem Settled.splitAuthority_authority {u : Url} (h : u.Settled) :
    (splitAuthority u.authority).1 = u.userinfo := by
  have hbehind := noAt_hostAndPort h.host
  rw [authority_eq]
  split
  · rename_i hnone
    rw [hnone, String.empty_append]
    exact splitAuthority_of_noAt hbehind
  · exact splitAuthority_append hbehind

theorem Settled.userinfo_withQuery {u v : Url} {query : String} (hu : u.Settled)
    (h : u.withQuery query = .ok v) : v.userinfo = u.userinfo := by
  unfold Url.withQuery at h
  split at h
  · cases h
  · obtain ⟨-, hinfo, -⟩ := ofParts_eq_ok h
    rw [hinfo]
    show percentEncode inUserinfo (splitAuthority u.authority).1 = u.userinfo
    rw [hu.splitAuthority_authority, hu.userinfo]

/-! ### Who is named -/

/-- The user whom the address names, with the password; one of the two is given. -/
def namedUser? (u : Url) : Option (String × String) :=
  u.credentials?.filter fun (name, password) => !decide (name = "" ∧ password = "")

/-- The user whom a text names as an address.  An address without a scheme or a host stands for its
path alone. -/
def user? (s : String) : Option (String × String) :=
  match parse s with
  | .ok u => if u.isAbsolute then u.namedUser? else none
  | .error _ => none

theorem namedUser?_of_userinfo {u : Url} (h : u.userinfo = "") : u.namedUser? = none := by
  unfold namedUser? credentials?
  rw [if_pos h]
  rfl

theorem namedUser?_congr {u v : Url} (h : u.userinfo = v.userinfo) :
    u.namedUser? = v.namedUser? := by
  unfold namedUser? credentials?
  rw [h]

theorem parse_eq_ok_iff {s : String} {u : Url} :
    parse s = .ok u ↔ s.toList.length ≤ lengthLimit ∧
      (∀ c ∈ s.toList, ¬ (c.toNat < 32 ∨ c.toNat = 127)) ∧ ofParts (split s) = .ok u := by
  unfold parse
  dsimp only
  split
  · rename_i hlong
    refine ⟨fun h => (nomatch h), fun ⟨hshort, _⟩ => ?_⟩
    exact absurd hshort (Nat.not_le_of_gt hlong)
  · rename_i hshort
    split
    · rename_i c i hfound
      have hmem : c ∈ s.toList :=
        (List.mem_zipIdx' (List.mem_of_find?_eq_some hfound)).2 ▸ List.getElem_mem _
      have hbad : c.toNat < 32 ∨ c.toNat = 127 := by simpa using List.find?_some hfound
      exact ⟨fun h => (nomatch h), fun ⟨_, hprintable, _⟩ => absurd hbad (hprintable c hmem)⟩
    · rename_i hnone
      refine ⟨fun h => ⟨Nat.le_of_not_lt hshort, fun c hc hbad => ?_, h⟩, fun ⟨_, _, h⟩ => h⟩
      obtain ⟨i, hi, rfl⟩ := List.mem_iff_getElem.1 hc
      have hplace : (s.toList[i], i) ∈ s.toList.zipIdx := by
        rw [List.mem_zipIdx_iff_getElem?]
        exact List.getElem?_eq_getElem hi
      exact List.find?_eq_none.1 hnone _ hplace (by simpa using hbad)

/-- Taken from the root, an address names whom its text names. -/
theorem namedUser?_rooted {s : String} {u v : Url} (hu : parse s = .ok u)
    (hv : u.rooted = .ok v) : v.Settled ∧ v.namedUser? = user? s := by
  unfold user?
  rw [hu]
  dsimp only
  unfold Url.rooted at hv
  split at hv
  · rename_i habsolute
    cases hv
    obtain ⟨-, -, hparts⟩ := parse_eq_ok_iff.1 hu
    exact ⟨settled_of_ofParts hparts, (if_pos habsolute).symm⟩
  · rename_i habsolute
    rw [if_neg habsolute]
    obtain ⟨-, hinfo, -⟩ := ofParts_eq_ok hv
    change v.userinfo = percentEncode inUserinfo (splitAuthority "").1 at hinfo
    rw [splitAuthority_of_noAt (by decide), percentEncode_empty] at hinfo
    exact ⟨settled_of_ofParts hv, namedUser?_of_userinfo hinfo⟩

/-- The text of an address names no user. -/
def NamesNobody (s : String) : Prop := (splitAuthority (split s).authority).1 = ""

instance (s : String) : Decidable (NamesNobody s) := inferInstanceAs (Decidable (_ = ""))

theorem NamesNobody.user?_eq {s : String} (h : NamesNobody s) : user? s = none := by
  unfold user?
  split
  · rename_i u hu
    obtain ⟨-, -, hparts⟩ := parse_eq_ok_iff.1 hu
    obtain ⟨-, hinfo, -⟩ := ofParts_eq_ok hparts
    rw [h, percentEncode_empty] at hinfo
    rw [namedUser?_of_userinfo hinfo, ite_self]
  · rfl

/-! ### A path behind an address -/

/-- The authority in front of a path. -/
def authorityIn : List Char → List Char
  | '/' :: '/' :: rest => rest.takeWhile (· != '/')
  | _ => []

/-- A character of the part of an address in front of its query and its fragment. -/
def isFront (c : Char) : Bool := !decide (c = '?') && !decide (c = '#')

theorem authority_split (s : String) :
    (split s).authority
      = .ofList (authorityIn ((splitScheme s.toList).2.takeWhile isFront)) := by
  unfold split cutAt
  simp only [List.span_eq_takeWhile_dropWhile, List.takeWhile_takeWhile]
  unfold authorityIn isFront
  split <;> simp_all

theorem takeWhile_append_cons {p : Char → Bool} {c : Char} (h : p c = false) (cs t : List Char) :
    (cs ++ c :: t).takeWhile p = cs.takeWhile p := by
  induction cs with
  | nil => simp [h]
  | cons d rest ih =>
    rw [List.cons_append, List.takeWhile_cons, List.takeWhile_cons, ih]

theorem splitScheme_append (cs t : List Char) :
    splitScheme (cs ++ '/' :: t) = ((splitScheme cs).1, (splitScheme cs).2 ++ '/' :: t) := by
  cases cs with
  | nil => rfl
  | cons c rest =>
    unfold splitScheme
    dsimp only
    rw [takeWhile_append_cons (by decide), List.cons_append, List.head?_cons, List.head?_cons,
      ← List.cons_append, List.drop_append_of_le_length]
    · -- The colon that ends a scheme stands in front of the slash, or there is none.
      generalize List.drop _ (c :: rest) = behind
      cases behind with
      | nil => rfl
      | cons d more =>
        by_cases hd : d = ':'
        · subst hd
          rfl
        · simp [hd]
    · split
      · exact (List.takeWhile_prefix _).length_le
      · exact Nat.zero_le _

/-- An address ends in front of its path: what is put behind a slash does not change the authority,
unless there are two slashes. -/
theorem authorityIn_append {cs t : List Char} (hcs : cs.getLast? ≠ some '/')
    (ht : t.head? ≠ some '/') : authorityIn (cs ++ '/' :: t) = authorityIn cs := by
  match cs with
  | [] =>
    cases t with
    | nil => rfl
    | cons c t =>
      have hc : c ≠ '/' := fun h => ht (congrArg some h)
      simp [authorityIn, hc]
  | [c] =>
    have hc : c ≠ '/' := fun h => hcs (congrArg some h)
    simp [authorityIn, hc]
  | c :: d :: rest =>
    by_cases hslashes : c = '/' ∧ d = '/'
    · obtain ⟨rfl, rfl⟩ := hslashes
      exact takeWhile_append_cons (by decide) rest t
    · have hnone : ∀ ds, authorityIn (c :: d :: ds) = [] := by
        intro ds
        unfold authorityIn
        split
        · rename_i heq
          cases heq
          exact absurd ⟨rfl, rfl⟩ hslashes
        · rfl
      rw [List.cons_append, List.cons_append, hnone, hnone]

theorem suffix_splitScheme (cs : List Char) : (splitScheme cs).2 <:+ cs := by
  unfold splitScheme
  dsimp only
  split
  · rename_i hdrop
    exact (List.suffix_cons _ _).trans (hdrop ▸ List.drop_suffix _ _)
  · exact List.suffix_rfl

/-- **A path names no user.**  An address that does not end in a slash names the same authority if a
path that begins with none is put behind it, after a slash. -/
theorem authority_append {base path : String} (hbase : base.toList.getLast? ≠ some '/')
    (hpath : path.toList.head? ≠ some '/') :
    (split (base ++ "/" ++ path)).authority = (split base).authority := by
  have hlast : (splitScheme base.toList).2.getLast? ≠ some '/' := by
    intro h
    obtain ⟨front, hfront⟩ := suffix_splitScheme base.toList
    refine hbase ?_
    rw [← hfront, List.getLast?_append, h]
    rfl
  have htext : (base ++ "/" ++ path).toList = base.toList ++ '/' :: path.toList := by
    simp
  rw [authority_split, authority_split, htext, splitScheme_append, List.takeWhile_append]
  split
  · rename_i hall
    have hbefore : (path.toList.takeWhile isFront).head? ≠ some '/' := by
      rw [List.head?_takeWhile]
      exact fun h => hpath (Option.eq_some_of_filter_eq_some h)
    rw [(List.takeWhile_prefix isFront).eq_of_length hall, List.takeWhile_cons_of_pos (by decide),
      authorityIn_append hlast hbefore]
  · rfl

theorem scheme_append (base path : String) :
    (split (base ++ "/" ++ path)).scheme = (split base).scheme := by
  have htext : (base ++ "/" ++ path).toList = base.toList ++ '/' :: path.toList := by
    simp
  show (splitScheme (base ++ "/" ++ path).toList).1 = (splitScheme base.toList).1
  rw [htext, splitScheme_append]

/-- Behind an authority a path is taken from the root. -/
theorem path_split {s : String} (h : (split s).authority ≠ "") :
    (split s).path = "" ∨ ['/'] <+: (split s).path.toList := by
  unfold split at h ⊢
  dsimp only at h ⊢
  split at h
  · rename_i rest _
    rw [List.span_eq_takeWhile_dropWhile]
    dsimp only
    rw [String.toList_ofList]
    cases hrest : rest.dropWhile (· != '/') with
    | nil => exact Or.inl rfl
    | cons c more =>
      have hc := List.head?_dropWhile_not (· != '/') rest
      rw [hrest] at hc
      obtain rfl : c = '/' := by simpa using hc
      exact Or.inr (List.prefix_append ['/'] more)
  · exact absurd rfl h

section Append

variable {base path : String} {u v : Url} (hbase : base.toList.getLast? ≠ some '/')
  (hpath : path.toList.head? ≠ some '/') (h : parse (base ++ "/" ++ path) = .ok u)

include hbase hpath h

/-- An address is absolute if it is with a path behind it, and has the same user information. -/
theorem eq_of_parse_append (hv : parse base = .ok v) :
    v.isAbsolute = u.isAbsolute ∧ v.userinfo = u.userinfo := by
  obtain ⟨-, -, hu⟩ := parse_eq_ok_iff.1 h
  obtain ⟨-, -, hv⟩ := parse_eq_ok_iff.1 hv
  obtain ⟨huScheme, huInfo, huHost, -⟩ := ofParts_eq_ok hu
  obtain ⟨hvScheme, hvInfo, hvHost, -⟩ := ofParts_eq_ok hv
  rw [authority_append hbase hpath] at huInfo huHost
  rw [scheme_append] at huScheme
  have hhost : v.host = u.host := Except.ok.inj (hvHost.symm.trans huHost)
  refine ⟨?_, hvInfo.trans huInfo.symm⟩
  unfold isAbsolute
  rw [hvScheme, huScheme, hhost]

/-- What has user information with a path behind it is an address without the path. -/
theorem exists_parse_of_append (hinfo : u.userinfo ≠ "") : ∃ v, parse base = .ok v := by
  obtain ⟨hshort, hprintable, hparts⟩ := parse_eq_ok_iff.1 h
  have hauthority := authority_append hbase hpath
  have hsome : (split base).authority ≠ "" := by
    intro hnobody
    obtain ⟨-, hread, -⟩ := ofParts_eq_ok hparts
    rw [hauthority, hnobody, splitAuthority_of_noAt (by decide), percentEncode_empty] at hread
    exact hinfo hread
  obtain ⟨v, hok⟩ := exists_ofParts hparts hinfo (scheme_append base path).symm hauthority.symm
    (path_split hsome)
  have hlength : base.toList.length ≤ (base ++ "/" ++ path).toList.length := by
    simp only [String.toList_append, List.length_append]
    omega
  exact ⟨v, parse_eq_ok_iff.2
    ⟨hlength.trans hshort, fun c hc => hprintable c (by simp [hc]), hok⟩⟩

/-- **A path names no user.**  If a path is put behind an address, the whole names whom the address
names. -/
theorem user?_append : user? (base ++ "/" ++ path) = user? base := by
  unfold user?
  rw [h]
  dsimp only
  cases hv : parse base with
  | ok v =>
    obtain ⟨habsolute, hinfo⟩ := eq_of_parse_append hbase hpath h hv
    dsimp only
    rw [habsolute, namedUser?_congr hinfo]
  | error f =>
    have hnone : u.userinfo = "" := by
      by_contra hinfo
      obtain ⟨v, hok⟩ := exists_parse_of_append hbase hpath h hinfo
      cases hv.symm.trans hok
    rw [namedUser?_of_userinfo hnone, ite_self]

end Append

end Url

/-! ### The headers of a request -/

/-- The headers with those of a user, whose name and password go where a token would be. -/
def Headers.authorized (user : Option (String × String)) (headers : Table String) : Table String :=
  match user with
  | none => headers
  | some (name, password) => headers.put "authorization" (basic name password)

theorem Draft.sentHeaders_eq (u : Url) (encoded : List (String × String)) :
    sentHeaders u encoded = Headers.authorized u.namedUser? (Headers.joined encoded) := by
  unfold sentHeaders Url.namedUser?
  dsimp only
  cases u.credentials? with
  | none => rfl
  | some user =>
    obtain ⟨name, password⟩ := user
    dsimp only
    rw [Option.filter_some]
    by_cases hnobody : name = "" ∧ password = ""
    · rw [if_pos hnobody, decide_eq_true hnobody]
      rfl
    · rw [if_neg hnobody, decide_eq_false hnobody]
      rfl

/-- **Who is named in the address comes into the request.**  The headers of a request are those of
the draft, and those of the user whom the address names. -/
theorem Draft.headers_of_request {d : Draft} {q : Request} (h : d.request = .ok q) :
    ∃ u sent, Url.parse d.address = .ok u ∧ Headers.encode d.headers = .ok sent ∧
      q.headers = Headers.authorized (Url.user? d.address) (Headers.joined sent) := by
  obtain ⟨u, v, sent, hu, hv, hsent, _, _, _, hheaders, _⟩ := request_eq_ok h
  obtain ⟨parsed, hparsed, hrooted⟩ := exists_of_bind_eq_ok hu
  obtain ⟨hsettled, huser⟩ := Url.namedUser?_rooted hparsed hrooted
  have hvuser : v.namedUser? = u.namedUser? := by
    unfold withParameters at hv
    split at hv
    · cases hv
      rfl
    · exact Url.namedUser?_congr (hsettled.userinfo_withQuery hv)
  refine ⟨parsed, sent, hparsed, hsent, ?_⟩
  rw [hheaders, sentHeaders_eq, hvuser, huser]

end Http
end ToolGateway
