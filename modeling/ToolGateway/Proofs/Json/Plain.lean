/-
# Plain values

JSON lacks octets, dates and sets, what holds itself has no end, and an integer with too many digits
is neither read nor written.  The rest is plain.  A plain value has a JSON form, if lists and maps are
nested no deeper in it than there is room (`hasForm_of_plain`), and what a JSON text holds is plain
(`plain_of_read`).

The number of items of a plain list can be written too, since it shows in the places of issues.  That
it can be for the lists of a text follows where the length of the text fits a word.
-/

import ToolGateway.Check.Issue
import ToolGateway.Json.Reader
import ToolGateway.Proofs.Effect.Trace
import Mathlib.Algebra.Group.Nat.Defs
import Mathlib.Data.List.TakeDrop

namespace ToolGateway

namespace DigitLimit

theorem allows_iff {i : Int} : allows i = true ↔ i.natAbs < 10 ^ limit := by
  rw [allows, Nat.pow_eq, decide_eq_true_iff]

theorem allows_of_natAbs_le {i j : Int} (h : i.natAbs ≤ j.natAbs) (hj : allows j = true) :
    allows i = true :=
  allows_iff.2 (Nat.lt_of_le_of_lt h (allows_iff.1 hj))

theorem allows_of_lt {i : Int} (h : i.natAbs < 10 ^ 20) : allows i = true := by
  have hlimit : 20 ≤ limit := by
    unfold limit
    omega
  exact allows_iff.2 (Nat.lt_of_lt_of_le h (Nat.pow_le_pow_right (by omega) hlimit))

end DigitLimit

/-- The value has a JSON form where so many lists and maps may still be opened. -/
def Json.HasForm (room : Nat) (v : Value) : Prop := ∃ s, writeValue spaced room v = .ok s

/-- The value counts as the key of a JSON object. -/
def Json.IsKey (v : Value) : Prop := ∃ name, keyText spaced v = .ok name

/-- A value that JSON has, with integers and numbers of items that can be written. -/
inductive Value.Plain : Value → Prop
  | null : Plain .null
  | bool (b : Bool) : Plain (.bool b)
  | int {i : Int} : DigitLimit.allows i = true → Plain (.int i)
  | float (x : Binary64) : Plain (.float x)
  | text (s : String) : Plain (.text s)
  | list {xs : List Value} :
      DigitLimit.allows xs.length = true → (∀ x ∈ xs, Plain x) → Plain (.list xs)
  | map {es : Entries} :
      (∀ e ∈ es, Json.IsKey e.1) → (∀ e ∈ es, Plain e.2) → Plain (.map es)

namespace Value

/-- How deep lists and maps are nested. -/
def nesting : Value → Nat
  | list xs => ofItems xs + 1
  | map es => ofEntries es + 1
  | _ => 0
where
  /-- The greatest depth among items. -/
  ofItems : List Value → Nat
    | [] => 0
    | x :: rest => max x.nesting (ofItems rest)
  /-- The greatest depth among the values of entries. -/
  ofEntries : List (Value × Value) → Nat
    | [] => 0
    | (_, v) :: rest => max v.nesting (ofEntries rest)

theorem nesting_list_le {xs : List Value} {n : Nat} :
    (Value.list xs).nesting ≤ n + 1 ↔ ∀ x ∈ xs, x.nesting ≤ n := by
  rw [nesting, Nat.add_le_add_iff_right]
  induction xs with
  | nil => simp [nesting.ofItems]
  | cons x rest ih => rw [nesting.ofItems, Nat.max_le, ih, List.forall_mem_cons]

theorem nesting_map_le {es : Entries} {n : Nat} :
    (Value.map es).nesting ≤ n + 1 ↔ ∀ e ∈ es, e.2.nesting ≤ n := by
  rw [nesting, Nat.add_le_add_iff_right]
  induction es with
  | nil => simp [nesting.ofEntries]
  | cons e rest ih => rw [nesting.ofEntries, Nat.max_le, ih, List.forall_mem_cons]

/-- A map is nested deeper than its values. -/
theorem nesting_lt_map {es : Entries} {e : Value × Value} (he : e ∈ es) :
    e.2.nesting < (Value.map es).nesting := by
  have hpos : (Value.map es).nesting = nesting.ofEntries es + 1 := by rw [nesting]
  have hall := nesting_map_le.1 (Nat.le_of_eq hpos) e he
  omega

/-- A list is nested deeper than its items. -/
theorem nesting_lt_list {xs : List Value} {x : Value} (hx : x ∈ xs) :
    x.nesting < (Value.list xs).nesting := by
  have hpos : (Value.list xs).nesting = nesting.ofItems xs + 1 := by rw [nesting]
  have hall := nesting_list_le.1 (Nat.le_of_eq hpos) x hx
  omega

end Value

namespace Json

/-! ### Plain values are written -/

theorem writeFloat_spaced (x : Binary64) : ∃ s, writeFloat spaced x = .ok s := by
  unfold writeFloat
  rw [if_neg (by decide : ¬spaced.finiteOnly = true)]
  split
  · exact ⟨_, rfl⟩
  · split
    · exact ⟨_, rfl⟩
    · exact ⟨_, rfl⟩

theorem writeInteger_of_allows {i : Int} (h : DigitLimit.allows i = true) :
    writeInteger i = .ok (toString i) := by
  unfold writeInteger
  rw [if_pos h]

theorem isKey_text (s : String) : IsKey (.text s) := ⟨s, rfl⟩

/-- What counts as a key is neither a list nor a map. -/
theorem IsKey.nesting_eq {k : Value} (h : IsKey k) : k.nesting = 0 := by
  obtain ⟨name, h⟩ := h
  cases k with
  | list xs => cases h
  | map es => cases h
  | _ => rfl

/-- What counts as a key is plain. -/
theorem IsKey.plain {k : Value} (h : IsKey k) : k.Plain := by
  obtain ⟨name, h⟩ := h
  cases k with
  | null => exact .null
  | bool b => exact .bool b
  | float x => exact .float x
  | text s => exact .text s
  | int i =>
    by_cases hi : DigitLimit.allows i = true
    · exact .int hi
    · rw [keyText, writeInteger, if_neg hi] at h
      cases h
  | _ => cases h

variable {room : Nat}

/-- Items are written if every one is. -/
theorem exists_writeItems {xs : List Value} (h : ∀ x ∈ xs, HasForm room x) :
    ∃ ts, writeItems spaced room xs = .ok ts := by
  induction xs with
  | nil => exact ⟨[], by rw [writeItems]⟩
  | cons x xs ih =>
    obtain ⟨⟨t, ht⟩, hxs⟩ := List.forall_mem_cons.1 h
    obtain ⟨ts, hts⟩ := ih hxs
    refine ⟨t :: ts, ?_⟩
    rw [writeItems, ht, hts]
    rfl

/-- Entries are written if every key counts as one and every value is written. -/
theorem exists_writeEntries {es : Entries} (hkeys : ∀ e ∈ es, IsKey e.1)
    (hvalues : ∀ e ∈ es, HasForm room e.2) : ∃ ts, writeEntries spaced room es = .ok ts := by
  induction es with
  | nil => exact ⟨[], by rw [writeEntries]⟩
  | cons e rest ih =>
    obtain ⟨k, v⟩ := e
    obtain ⟨⟨name, hname⟩, hkeys⟩ := List.forall_mem_cons.1 hkeys
    obtain ⟨⟨t, ht⟩, hvalues⟩ := List.forall_mem_cons.1 hvalues
    obtain ⟨ts, hts⟩ := ih hkeys hvalues
    refine ⟨(writeText name ++ spaced.colon ++ t) :: ts, ?_⟩
    rw [writeEntries, hname, ht, hts]
    rfl

/-- A list takes the room of one more than its items. -/
theorem hasForm_list {xs : List Value} (h : ∀ x ∈ xs, HasForm room x) :
    HasForm (room + 1) (.list xs) := by
  obtain ⟨ts, hts⟩ := exists_writeItems h
  refine ⟨"[" ++ spaced.comma.intercalate ts ++ "]", ?_⟩
  rw [writeValue, if_neg (Nat.succ_ne_zero room), Nat.add_sub_cancel, hts]
  rfl

/-- A map takes the room of one more than its values. -/
theorem hasForm_map {es : Entries} (hkeys : ∀ e ∈ es, IsKey e.1)
    (hvalues : ∀ e ∈ es, HasForm room e.2) : HasForm (room + 1) (.map es) := by
  obtain ⟨ts, hts⟩ := exists_writeEntries hkeys hvalues
  refine ⟨"\x7b" ++ spaced.comma.intercalate ts ++ "\x7d", ?_⟩
  rw [writeValue, if_neg (Nat.succ_ne_zero room), Nat.add_sub_cancel, hts]
  rfl

/-- The keys of a table count as keys, and its values are those of the entries. -/
theorem forall_mem_ofTable {Q : Value → Prop} {t : Table Value} (h : ∀ e ∈ t, Q e.2) :
    ∀ e ∈ t.map fun e => (Value.text e.1, e.2), IsKey e.1 ∧ Q e.2 := by
  intro e he
  obtain ⟨e', he', rfl⟩ := List.mem_map.1 he
  exact ⟨isKey_text e'.1, h e' he'⟩

theorem hasForm_ofTable {t : Table Value} (h : ∀ e ∈ t, HasForm room e.2) :
    HasForm (room + 1) (.ofTable t) :=
  have hentries := forall_mem_ofTable h
  hasForm_map (fun e he => (hentries e he).1) fun e he => (hentries e he).2

/-- **A plain value has a JSON form**, if there is room for its lists and maps. -/
theorem hasForm_of_plain {v : Value} (h : v.Plain) (hroom : v.nesting ≤ room) : HasForm room v := by
  induction h generalizing room with
  | null => exact ⟨_, by rw [writeValue]⟩
  | bool b => exact ⟨_, by rw [writeValue]⟩
  | int hi => exact ⟨_, by rw [writeValue, writeInteger_of_allows hi]⟩
  | float x =>
    obtain ⟨s, hs⟩ := writeFloat_spaced x
    exact ⟨s, by rw [writeValue, hs]⟩
  | text s => exact ⟨_, by rw [writeValue]⟩
  | list _ _ ih =>
    cases room with
    | zero =>
      rw [Value.nesting] at hroom
      omega
    | succ room =>
      have hitems := Value.nesting_list_le.1 hroom
      exact hasForm_list fun x hx => ih x hx (hitems x hx)
  | map hkeys _ ih =>
    cases room with
    | zero =>
      rw [Value.nesting] at hroom
      omega
    | succ room =>
      have hvalues := Value.nesting_map_le.1 hroom
      exact hasForm_map hkeys fun e he => ih e he (hvalues e he)

/-- A text has a JSON form wherever it stands. -/
theorem hasForm_text (s : String) : HasForm room (.text s) :=
  hasForm_of_plain (.text s) (Nat.zero_le room)

end Json

/-- A plain value with lists and maps nested at most so deep. -/
structure Value.PlainWithin (n : Nat) (v : Value) : Prop where
  plain : v.Plain
  nesting_le : v.nesting ≤ n

namespace Value.PlainWithin

variable {n : Nat} {v w : Value}

/-! ### Parts of plain values -/

theorem mono {m : Nat} (h : v.PlainWithin n) (hm : n ≤ m) : v.PlainWithin m :=
  ⟨h.plain, Nat.le_trans h.nesting_le hm⟩

theorem hasForm (h : v.PlainWithin n) : Json.HasForm n v := Json.hasForm_of_plain h.plain h.nesting_le

theorem text (s : String) : (Value.text s).PlainWithin n := ⟨.text s, Nat.zero_le n⟩

theorem int {i : Int} (h : DigitLimit.allows i = true) : (Value.int i).PlainWithin n :=
  ⟨.int h, Nat.zero_le n⟩

theorem map {es : Entries} (hkeys : ∀ e ∈ es, Json.IsKey e.1)
    (hvalues : ∀ e ∈ es, e.2.PlainWithin n) : (Value.map es).PlainWithin (n + 1) where
  plain := .map hkeys fun e he => (hvalues e he).plain
  nesting_le := nesting_map_le.2 fun e he => (hvalues e he).nesting_le

theorem ofTable {t : Table Value} (h : ∀ e ∈ t, e.2.PlainWithin n) :
    (Value.ofTable t).PlainWithin (n + 1) :=
  have hentries := Json.forall_mem_ofTable h
  .map (fun e he => (hentries e he).1) fun e he => (hentries e he).2

theorem empty : (Value.map []).PlainWithin (n + 1) :=
  .map (fun _ h => nomatch h) fun _ h => nomatch h

/-- The keys of a plain map count as keys. -/
theorem keys {es : Entries} (h : (Value.map es).PlainWithin n) : ∀ e ∈ es, Json.IsKey e.1 := by
  cases h.plain with
  | map hkeys _ => exact hkeys

/-- The values of a plain map are plain. -/
theorem values {es : Entries} (h : (Value.map es).PlainWithin n) :
    ∀ e ∈ es, e.2.PlainWithin n := by
  obtain ⟨hplain, hn⟩ := h
  cases hplain with
  | map _ hvalues =>
    intro e he
    have hlt := nesting_lt_map he
    exact ⟨hvalues e he, by omega⟩

/-- The items of a plain list are plain. -/
theorem items {xs : List Value} (h : (Value.list xs).PlainWithin n) :
    ∀ x ∈ xs, x.PlainWithin n := by
  obtain ⟨hplain, hn⟩ := h
  cases hplain with
  | list _ hxs =>
    intro x hx
    have hlt := nesting_lt_list hx
    exact ⟨hxs x hx, by omega⟩

/-- What is found in a plain value is plain. -/
theorem get? {name : String} (hv : v.PlainWithin n) (h : v.get? name = some w) :
    w.PlainWithin n := by
  cases v with
  | map es => exact hv.values _ (Entries.mem_of_get? h)
  | _ => cases h

theorem at? {names : List String} (hv : v.PlainWithin n) (h : v.at? names = some w) :
    w.PlainWithin n := by
  induction names generalizing v with
  | nil =>
    cases h
    exact hv
  | cons name rest ih =>
    obtain ⟨u, hu, h⟩ := Option.bind_eq_some_iff.1 h
    exact ih (hv.get? hu) h

end Value.PlainWithin

namespace Json

/-! ### What is read is plain -/

theorem isDigit_of_mem_spanDigits {cs : List Char} {c : Char} (h : c ∈ (spanDigits cs).1) :
    c.isDigit = true := by
  unfold spanDigits at h
  rw [List.span_eq_takeWhile_dropWhile] at h
  exact List.all_eq_true.1 List.all_takeWhile c h

/-- Digits stand for less than the power of ten that their number gives.  The induction is on the
digits, over any number read before them. -/
theorem digitsNumber_lt {ds : List Char} (h : ∀ c ∈ ds, c.isDigit = true) :
    digitsNumber ds < 10 ^ ds.length := by
  have hfold : ∀ n, ds.foldl (fun n c => n * 10 + (c.toNat - 48)) n < (n + 1) * 10 ^ ds.length := by
    induction ds with
    | nil => simp
    | cons c rest ih =>
      intro n
      obtain ⟨hc, hrest⟩ := List.forall_mem_cons.1 h
      have hdigit : c.toNat - 48 < 10 := by
        unfold Char.isDigit at hc
        have hnine : c.toNat ≤ 57 := by
          simpa [UInt32.le_iff_toNat_le] using (Bool.and_eq_true_iff.1 hc).2
        omega
      calc (c :: rest).foldl (fun n c => n * 10 + (c.toNat - 48)) n
          < (n * 10 + (c.toNat - 48) + 1) * 10 ^ rest.length := ih hrest _
        _ ≤ ((n + 1) * 10) * 10 ^ rest.length := Nat.mul_le_mul_right _ (by omega)
        _ = (n + 1) * 10 ^ (c :: rest).length := by
          rw [List.length_cons, Nat.pow_succ, Nat.mul_assoc, Nat.mul_comm 10]
  simpa [digitsNumber] using hfold 0

theorem isDigit_of_wholePart? {cs ds rest : List Char} (h : wholePart? cs = some (ds, rest)) :
    ∀ c ∈ ds, c.isDigit = true := by
  unfold wholePart? at h
  split at h
  · cases h
    exact List.forall_mem_singleton.2 rfl
  · dsimp only at h
    split at h
    · cases h
    · cases h
      exact fun c hc => isDigit_of_mem_spanDigits hc

/-- A number that is read is a float, or an integer with no more digits than may be read. -/
theorem plain_of_readNumber {cs rest : List Char} {v : Value}
    (h : readNumber cs = .ok (v, rest)) : v.Plain := by
  unfold readNumber at h
  dsimp only at h
  split at h
  · cases h
  · rename_i whole after hwhole
    split at h
    · split at h
      · cases h
      · rename_i hlimit
        cases h
        have hlt : digitsNumber whole < 10 ^ DigitLimit.limit :=
          Nat.lt_of_lt_of_le (digitsNumber_lt (isDigit_of_wholePart? hwhole))
            (Nat.pow_le_pow_right (by omega) (by omega))
        refine .int (DigitLimit.allows_iff.2 ?_)
        split
        · simpa using hlt
        · simpa using hlt
    · cases h
      exact .float _

theorem plain_of_readWord? {cs rest : List Char} {v : Value}
    (h : readWord? cs = some (v, rest)) : v.Plain := by
  have hwords : ∀ w ∈ words, w.2.Plain := by
    unfold words
    simp only [List.forall_mem_cons]
    exact ⟨.null, .bool true, .bool false, .float _, .float _, .float _, fun _ h => nomatch h⟩
  unfold readWord? at h
  obtain ⟨w, hw, he⟩ := Option.map_eq_some_iff.1 h
  cases he
  exact hwords w (List.mem_of_find?_eq_some hw)

end Json

namespace Entries

/-- Keys and values of entries that are put are those of the entries or the new ones. -/
theorem forall_put {P Q : Value → Prop} {es : Entries} {k v : Value}
    (h : ∀ e ∈ es, P e.1 ∧ Q e.2) (hk : P k) (hv : Q v) : ∀ e ∈ put es k v, P e.1 ∧ Q e.2 := by
  induction es with
  | nil =>
    unfold put
    exact List.forall_mem_singleton.2 ⟨hk, hv⟩
  | cons e rest ih =>
    obtain ⟨k', v'⟩ := e
    obtain ⟨he, hrest⟩ := List.forall_mem_cons.1 h
    unfold put
    split
    · exact List.forall_mem_cons.2 ⟨⟨he.1, hv⟩, hrest⟩
    · exact List.forall_mem_cons.2 ⟨he, ih hrest⟩

/-- Keys and values of a map made of pairs are those of the pairs. -/
theorem forall_ofList {P Q : Value → Prop} {pairs : List (Value × Value)}
    (h : ∀ e ∈ pairs, P e.1 ∧ Q e.2) : ∀ e ∈ ofList pairs, P e.1 ∧ Q e.2 := by
  have hfold : ∀ acc : Entries, (∀ e ∈ acc, P e.1 ∧ Q e.2) →
      ∀ e ∈ pairs.foldl (fun acc e => put acc e.1 e.2) acc, P e.1 ∧ Q e.2 := by
    induction pairs with
    | nil => exact fun _ hacc => hacc
    | cons p rest ih =>
      intro acc hacc
      obtain ⟨hp, hrest⟩ := List.forall_mem_cons.1 h
      exact ih hrest _ (forall_put hacc hp.1 hp.2)
  exact hfold [] fun _ h => nomatch h

end Entries

namespace Json

/-- What is read with so much fuel is plain, and a list has no more items than there was fuel. -/
structure ReadsPlain (fuel : Nat) : Prop where
  value : ∀ {room cs v rest}, readValue room fuel cs = .ok (v, rest) → v.Plain
  items : ∀ {room cs xs rest}, readItems room fuel cs = .ok (xs, rest) →
    xs.length ≤ fuel ∧ ∀ x ∈ xs, x.Plain
  entries : ∀ {room cs es rest}, readEntries room fuel cs = .ok (es, rest) →
    ∀ e ∈ es, IsKey e.1 ∧ e.2.Plain

namespace ReadsPlain

variable {fuel room : Nat} {cs rest : List Char}

theorem zero : ReadsPlain 0 where
  value h := by
    rw [readValue] at h
    cases h
  items h := by
    rw [readItems] at h
    cases h
  entries h := by
    rw [readEntries] at h
    cases h

theorem value_succ (h : ReadsPlain fuel) (hfuel : DigitLimit.allows fuel = true) {v : Value}
    (hv : readValue room (fuel + 1) cs = .ok (v, rest)) : v.Plain := by
  unfold readValue at hv
  split at hv
  · cases hv
  · obtain ⟨_, _, hv⟩ := exists_of_bind_eq_ok hv
    cases hv
    exact .text _
  · split at hv
    · cases hv
    · split at hv
      · cases hv
        exact .map (fun _ he => nomatch he) fun _ he => nomatch he
      · obtain ⟨_, hp, hv⟩ := exists_of_bind_eq_ok hv
        cases hv
        have hes := Entries.forall_ofList (h.entries hp)
        exact .map (fun e he => (hes e he).1) fun e he => (hes e he).2
  · split at hv
    · cases hv
    · split at hv
      · cases hv
        exact .list (DigitLimit.allows_of_lt (by simp)) fun _ hx => nomatch hx
      · obtain ⟨_, hp, hv⟩ := exists_of_bind_eq_ok hv
        cases hv
        obtain ⟨hlength, hxs⟩ := h.items hp
        exact .list (DigitLimit.allows_of_natAbs_le (by simpa using hlength) hfuel) hxs
  · split at hv
    · cases hv
      exact plain_of_readWord? ‹_›
    · exact plain_of_readNumber hv

theorem items_succ (h : ReadsPlain fuel) {xs : List Value}
    (hxs : readItems room (fuel + 1) cs = .ok (xs, rest)) :
    xs.length ≤ fuel + 1 ∧ ∀ x ∈ xs, x.Plain := by
  unfold readItems at hxs
  obtain ⟨⟨x, _⟩, hx, hxs⟩ := exists_of_bind_eq_ok hxs
  dsimp only at hxs
  split at hxs
  · cases hxs
    exact ⟨Nat.le_add_left 1 fuel, List.forall_mem_singleton.2 (h.value hx)⟩
  · obtain ⟨_, hmore, hxs⟩ := exists_of_bind_eq_ok hxs
    cases hxs
    obtain ⟨hlength, hplain⟩ := h.items hmore
    exact ⟨Nat.succ_le_succ hlength, List.forall_mem_cons.2 ⟨h.value hx, hplain⟩⟩
  · cases hxs

theorem entries_succ (h : ReadsPlain fuel) {es : Entries}
    (hes : readEntries room (fuel + 1) cs = .ok (es, rest)) : ∀ e ∈ es, IsKey e.1 ∧ e.2.Plain := by
  unfold readEntries at hes
  split at hes
  · obtain ⟨⟨name, _⟩, _, hes⟩ := exists_of_bind_eq_ok hes
    dsimp only at hes
    split at hes
    · obtain ⟨⟨v, _⟩, hv, hes⟩ := exists_of_bind_eq_ok hes
      have hentry : IsKey (.text name) ∧ v.Plain := ⟨isKey_text name, h.value hv⟩
      dsimp only at hes
      split at hes
      · cases hes
        exact List.forall_mem_singleton.2 hentry
      · obtain ⟨_, hmore, hes⟩ := exists_of_bind_eq_ok hes
        cases hes
        exact List.forall_mem_cons.2 ⟨hentry, h.entries hmore⟩
      · cases hes
    · cases hes
  · cases hes

/-- The three readings call each other with one less of the fuel, on which the induction is. -/
theorem of_allows (hfuel : DigitLimit.allows fuel = true) : ReadsPlain fuel := by
  induction fuel with
  | zero => exact zero
  | succ fuel ih =>
    have hless : DigitLimit.allows fuel = true := DigitLimit.allows_of_natAbs_le (by omega) hfuel
    have h := ih hless
    exact ⟨h.value_succ hless, h.items_succ, h.entries_succ⟩

end ReadsPlain

/-- **What a JSON text holds is plain.** -/
theorem plain_of_read {s : String} {v : Value} (hs : Step.fitsWord s.length = true)
    (h : read s = .ok v) : v.Plain := by
  unfold read readChars at h
  split at h
  · cases h
  · obtain ⟨_, hv, h⟩ := exists_of_bind_eq_ok h
    dsimp only at h
    split at h
    · cases h
      have hfuel : DigitLimit.allows (2 * s.toList.length + 2 : Nat) = true := by
        unfold Step.fitsWord at hs
        simp only [Bool.and_eq_true, decide_eq_true_eq] at hs
        rw [String.length_toList]
        exact DigitLimit.allows_of_lt (by omega)
      exact (ReadsPlain.of_allows hfuel).value hv
    · cases h

end Json
end ToolGateway
