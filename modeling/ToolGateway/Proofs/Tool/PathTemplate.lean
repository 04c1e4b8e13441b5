/-
# Values in paths

The path of an operation is literal text with places for values, each marked by a name in braces.
`PathTemplate.fill` is the path that is meant: every place has the text of its value, and a place
without one keeps its mark.  A router comes there by replacing one mark after the other in what it
has so far, and what it has so far holds the values of the arguments before.

So a value is taken for a mark if it holds the mark of a later argument, or makes one with the text
around it, and stands in front of the place of that argument.  `Undisturbed` says that this does not
happen; then the router fills every place with its own value, and if no value holds an opening brace
it does so in every order (`values_fill_their_own_places`).  Otherwise the path need not be the one
that is meant, and depends on the order (`values_are_taken_for_marks`).
-/

import ToolGateway.Proofs.Tool.Delivery
import Mathlib.Data.List.Infix

namespace ToolGateway

namespace Table

variable {α : Type} {t u : Table α}

/-- Under names that are all different, the order is nothing to what is found. -/
theorem get?_perm (h : t.Perm u) (hn : t.names.Nodup) (name : String) :
    u.get? name = t.get? name := by
  have hu : u.names.Nodup := (h.map Prod.fst).nodup_iff.1 hn
  cases ht : t.get? name with
  | some v => exact get?_of_mem hu (h.subset (mem_of_get? ht))
  | none =>
    rw [get?_eq_none_iff] at ht ⊢
    exact fun hm => ht ((h.map Prod.fst).mem_iff.2 hm)

end Table

/-! ### Replacing a mark -/

namespace Router

variable {part new l r n n' : List Char} {name : String}

/-- If a part starts nowhere before, it is replaced where it stands. -/
theorem replaceFirst_append (hne : part ≠ [])
    (h : ∀ l₁ l₂, l = l₁ ++ l₂ → l₂ ≠ [] → ¬ part <+: l₂ ++ (part ++ r)) :
    replaceFirst part new (l ++ (part ++ r)) = l ++ (new ++ r) := by
  induction l with
  | nil =>
    obtain ⟨c, part, rfl⟩ := List.exists_cons_of_ne_nil hne
    have hp : c :: part <+: c :: (part ++ r) := List.prefix_append (c :: part) r
    show replaceFirst (c :: part) new (c :: (part ++ r)) = new ++ r
    unfold replaceFirst
    rw [if_pos (List.isPrefixOf_iff_prefix.2 hp)]
    simp
  | cons c l ih =>
    have hc : ¬ part <+: c :: (l ++ (part ++ r)) := h [] (c :: l) rfl (by simp)
    show replaceFirst part new (c :: (l ++ (part ++ r))) = c :: (l ++ (new ++ r))
    unfold replaceFirst
    rw [if_neg fun hp => hc (List.isPrefixOf_iff_prefix.1 hp),
      ih fun l₁ l₂ he => h (c :: l₁) l₂ (by rw [he]; rfl)]

/-- The first mark is the one that is replaced, unless there is one in the text in front of it. -/
theorem replaceFirst_mark (hname : '\x7b' ∉ name.toList) (h : ¬ mark name <:+: l) :
    replaceFirst (mark name) new (l ++ (mark name ++ r)) = l ++ (new ++ r) := by
  refine replaceFirst_append (List.cons_ne_nil _ _) fun l₁ l₂ hl hne hp => ?_
  rcases List.prefix_or_prefix_of_prefix hp (List.prefix_append l₂ _) with hin | hout
  · exact h (hl ▸ hin.isInfix.trans (List.suffix_append l₁ l₂).isInfix)
  · -- The mark would start in the text in front and end in itself, but it has no brace inside.
    obtain ⟨rest, hrest⟩ := hout
    have hp : rest <+: mark name ++ r :=
      (List.prefix_append_right_inj l₂).1 (by rw [hrest]; exact hp)
    cases rest with
    | nil =>
      rw [List.append_nil] at hrest
      exact h (hl ▸ hrest ▸ (List.suffix_append l₁ l₂).isInfix)
    | cons c rest =>
      obtain ⟨rfl, _⟩ := List.cons_prefix_cons.1 hp
      obtain ⟨c, l₂, rfl⟩ := List.exists_cons_of_ne_nil hne
      have hin : l₂ ++ '\x7b' :: rest = name.toList ++ ['\x7d'] := (List.cons.inj hrest).2
      have hm : '\x7b' ∈ name.toList ++ ['\x7d'] := hin ▸ by simp
      exact hname (by simpa using hm)

/-- Two texts that end at the same brace are the same. -/
theorem eq_of_closed (hn : '\x7d' ∉ n) (hn' : '\x7d' ∉ n')
    (h : n ++ ['\x7d'] <+: n' ++ '\x7d' :: r) : n = n' := by
  induction n generalizing n' with
  | nil =>
    cases n' with
    | nil => rfl
    | cons c n' =>
      obtain ⟨rfl, _⟩ := List.cons_prefix_cons.1 h
      simp at hn'
  | cons c n ih =>
    cases n' with
    | nil =>
      obtain ⟨rfl, _⟩ := List.cons_prefix_cons.1 h
      simp at hn
    | cons c' n' =>
      obtain ⟨rfl, hrest⟩ := List.cons_prefix_cons.1 h
      rw [ih (fun hm => hn (List.mem_cons_of_mem _ hm)) (fun hm => hn' (List.mem_cons_of_mem _ hm))
        hrest]

/-- A mark that is in a text without opening braces and what follows, is in what follows. -/
theorem mark_infix_of_not_mem (hl : '\x7b' ∉ l) (h : mark name <:+: l ++ r) : mark name <:+: r := by
  induction l with
  | nil => exact h
  | cons c l ih =>
    rw [List.cons_append, List.infix_cons_iff] at h
    rcases h with hp | hi
    · obtain ⟨rfl, _⟩ := List.cons_prefix_cons.1 hp
      simp at hl
    · exact ih (fun hm => hl (List.mem_cons_of_mem _ hm)) hi

end Router

/-! ### Templates -/

open Router (mark pathText)

/-- A piece of a path: literal text, or the place of an argument. -/
inductive PathPiece where
  | literal (text : List Char)
  | place (name : String)
deriving DecidableEq

namespace PathPiece

/-- The text of a literal, and the name of a place. -/
def content : PathPiece → List Char
  | literal text => text
  | place name => name.toList

/-- The name of a place. -/
def name? : PathPiece → Option String
  | literal _ => none
  | place name => some name

/-- There are no braces but those of the marks. -/
def Plain (piece : PathPiece) : Prop := '\x7b' ∉ piece.content ∧ '\x7d' ∉ piece.content

/-- The text of a piece: a place has that of its value, and its mark if it has no value. -/
def filled (values : Table Value) : PathPiece → List Char
  | literal text => text
  | place name => ((values.get? name).map fun v => (pathText v).toList).getD (mark name)

variable {name : String} {values : Table Value}

theorem mem_filterMap_name? {ps : List PathPiece} :
    name ∈ ps.filterMap name? ↔ place name ∈ ps := by
  rw [List.mem_filterMap]
  constructor
  · rintro ⟨_ | n, hp, ⟨⟩⟩
    exact hp
  · exact fun h => ⟨_, h, rfl⟩

theorem eq_takeWhile_append {p : PathPiece} {ps : List PathPiece} (h : p ∈ ps) :
    ∃ behind, ps = ps.takeWhile (· ≠ p) ++ p :: behind ∧ p ∉ ps.takeWhile (· ≠ p) := by
  induction ps with
  | nil => cases h
  | cons q ps ih =>
    by_cases hq : q = p
    · subst hq
      exact ⟨ps, by simp, by simp⟩
    · obtain ⟨behind, hps, hp⟩ := ih ((List.mem_cons.1 h).resolve_left (Ne.symm hq))
      rw [List.takeWhile_cons_of_pos (by simpa using hq)]
      exact ⟨behind, congrArg (q :: ·) hps, List.not_mem_cons_of_ne_of_not_mem (Ne.symm hq) hp⟩

theorem filled_place (values : Table Value) (name : String) : (place name).filled values
    = ((values.get? name).map fun v => (pathText v).toList).getD (mark name) := rfl

/-- A value changes nothing but its own place. -/
theorem filled_append_of_ne {piece : PathPiece} (h : piece ≠ place name) (v : Value) :
    piece.filled (values ++ [(name, v)]) = piece.filled values := by
  cases piece with
  | literal text => rfl
  | place n =>
    have hn : name ≠ n := fun he => h (he ▸ rfl)
    simp [filled, Table.get?_append, Table.get?_cons, hn]

theorem filled_place_of_not_mem (h : name ∉ values.names) :
    (place name).filled values = mark name := by
  rw [filled_place, (Table.get?_eq_none_iff values name).2 h]
  rfl

theorem filled_place_append (h : name ∉ values.names) (v : Value) :
    (place name).filled (values ++ [(name, v)]) = (pathText v).toList := by
  rw [filled_place, Table.get?_append, (Table.get?_eq_none_iff values name).2 h, Table.get?_cons,
    if_pos rfl]
  rfl

theorem flatMap_filled_append {ps : List PathPiece} (h : place name ∉ ps) (v : Value) :
    ps.flatMap (filled (values ++ [(name, v)])) = ps.flatMap (filled values) :=
  List.flatMap_congr fun _ hp => filled_append_of_ne (fun he => h (he ▸ hp)) v

/-- Where no value has an opening brace, the marks are those of the places. -/
theorem not_mark_infix {ps : List PathPiece} (hplain : ∀ p ∈ ps, p.Plain)
    (hvalues : ∀ a ∈ values, '\x7b' ∉ (pathText a.2).toList) (hname : '\x7d' ∉ name.toList)
    (hps : place name ∉ ps) : ¬ mark name <:+: ps.flatMap (filled values) := by
  induction ps with
  | nil =>
    intro h
    cases List.infix_nil.1 h
  | cons p ps ih =>
    obtain ⟨hp, hplain⟩ := List.forall_mem_cons.1 hplain
    obtain ⟨hne, hps⟩ := not_or.1 (fun h => hps (List.mem_cons.2 h))
    intro h
    rw [List.flatMap_cons] at h
    refine ih hplain hps ?_
    cases p with
    | literal text => exact Router.mark_infix_of_not_mem hp.1 h
    | place n =>
      rw [filled_place] at h
      cases hv : values.get? n with
      | some v =>
        rw [hv] at h
        exact Router.mark_infix_of_not_mem (hvalues _ (Table.mem_of_get? hv)) h
      | none =>
        rw [hv] at h
        rcases List.infix_cons_iff.1 (h : _ <:+: '\x7b' :: (n.toList ++ ['\x7d'] ++ _)) with h | h
        · obtain ⟨_, h⟩ := List.cons_prefix_cons.1 h
          have h : name.toList ++ ['\x7d'] <+:
              n.toList ++ '\x7d' :: ps.flatMap (filled values) := by simpa using h
          exact absurd (congrArg place (String.toList_inj.1 (Router.eq_of_closed hname hp.2 h))) hne
        · have hm : '\x7b' ∉ n.toList ++ ['\x7d'] := by simpa [content] using hp.1
          exact Router.mark_infix_of_not_mem hm h

end PathPiece

/-- A path of literal texts and places with names that are all different. -/
structure PathTemplate where
  pieces : List PathPiece
  plain : ∀ piece ∈ pieces, piece.Plain
  distinct : (pieces.filterMap PathPiece.name?).Nodup

namespace PathTemplate

variable {t : PathTemplate} {values before rest : Table Value} {name : String} {v : Value}

/-- The names of the places. -/
def places (t : PathTemplate) : List String := t.pieces.filterMap PathPiece.name?

/-- The characters of the path with values in their places. -/
def chars (t : PathTemplate) (values : Table Value) : List Char :=
  t.pieces.flatMap (PathPiece.filled values)

/-- The path with values in their places. -/
def fill (t : PathTemplate) (values : Table Value) : String := .ofList (t.chars values)

/-- The path as it is written, with the marks in their places. -/
def text (t : PathTemplate) : String := t.fill []

/-- The pieces in front of the place of a name. -/
def front (t : PathTemplate) (name : String) : List PathPiece :=
  t.pieces.takeWhile (· ≠ .place name)

/-- When the turn of an argument comes, its mark does not stand in front of its place. -/
def Undisturbed (t : PathTemplate) (values : Table Value) : Prop :=
  ∀ before name v after, values = before ++ (name, v) :: after →
    ¬ mark name <:+: (t.front name).flatMap (PathPiece.filled before)

theorem pieces_eq_front (h : name ∈ t.places) :
    ∃ behind, t.pieces = t.front name ++ .place name :: behind ∧
      .place name ∉ t.front name ∧ .place name ∉ behind := by
  obtain ⟨behind, hpieces, hfront⟩ :=
    PathPiece.eq_takeWhile_append (PathPiece.mem_filterMap_name?.1 h)
  refine ⟨behind, hpieces, hfront, fun hb => ?_⟩
  have hd := t.distinct
  rw [hpieces, List.filterMap_append] at hd
  have hrest : (name :: behind.filterMap PathPiece.name?).Nodup := (List.nodup_append.1 hd).2.1
  exact (List.nodup_cons.1 hrest).1 (PathPiece.mem_filterMap_name?.2 hb)

/-- At its turn the value of an argument is put in its place. -/
theorem replaceFirst_chars (hm : name ∈ t.places) (hn : name ∉ before.names)
    (h : ¬ mark name <:+: (t.front name).flatMap (PathPiece.filled before)) :
    Router.replaceFirst (mark name) (pathText v).toList (t.chars before)
      = t.chars (before ++ [(name, v)]) := by
  obtain ⟨behind, hpieces, hfront, hbehind⟩ := pieces_eq_front hm
  have hplain : '\x7b' ∉ name.toList := (t.plain _ (PathPiece.mem_filterMap_name?.1 hm)).1
  unfold chars
  rw [hpieces, List.flatMap_append, List.flatMap_cons, List.flatMap_append, List.flatMap_cons,
    PathPiece.flatMap_filled_append hfront, PathPiece.flatMap_filled_append hbehind,
    PathPiece.filled_place_of_not_mem hn, PathPiece.filled_place_append hn,
    Router.replaceFirst_mark hplain h]

/-- The values are put in their places one after the other. -/
theorem foldl_replaceFirst (hm : ∀ name ∈ values.names, name ∈ t.places)
    (hn : values.names.Nodup) (h : t.Undisturbed values) (hvalues : values = before ++ rest) :
    rest.foldl (fun cs a => Router.replaceFirst (mark a.1) (pathText a.2).toList cs)
      (t.chars before) = t.chars values := by
  induction rest generalizing before with
  | nil => rw [hvalues, List.append_nil]; rfl
  | cons a rest ih =>
    obtain ⟨name, v⟩ := a
    have hname : name ∈ values.names := List.mem_map.2 ⟨(name, v), by rw [hvalues]; simp, rfl⟩
    have hnew : name ∉ before.names := by
      rw [hvalues, Table.names, List.map_append, List.map_cons] at hn
      exact fun hb => (List.nodup_append.1 hn).2.2 name hb name List.mem_cons_self rfl
    rw [List.foldl_cons, replaceFirst_chars (hm name hname) hnew (h before name v rest hvalues)]
    exact ih (by rw [hvalues, List.append_assoc]; rfl)

theorem renderPath_text (hm : ∀ name ∈ values.names, name ∈ t.places) (hn : values.names.Nodup)
    (h : t.Undisturbed values) : Router.renderPath t.text values = t.fill values := by
  unfold Router.renderPath fill text fill
  rw [String.toList_ofList, foldl_replaceFirst hm hn h (List.nil_append values).symm]

/-- Values without opening braces are taken for no mark. -/
theorem undisturbed_of_not_mem (hm : ∀ name ∈ values.names, name ∈ t.places)
    (hvalues : ∀ a ∈ values, '\x7b' ∉ (pathText a.2).toList) : t.Undisturbed values := by
  intro before name v after he
  have hplace : name ∈ t.places :=
    hm name (List.mem_map.2 ⟨(name, v), by rw [he]; simp, rfl⟩)
  obtain ⟨behind, hpieces, hfront, _⟩ := pieces_eq_front hplace
  refine PathPiece.not_mark_infix (fun p hp => t.plain p ?_) (fun a ha => hvalues a ?_)
    (t.plain _ (PathPiece.mem_filterMap_name?.1 hplace)).2 hfront
  · rw [hpieces]
    exact List.mem_append_left _ hp
  · rw [he]
    exact List.mem_append_left _ ha

/-- The path that is meant depends on what is found for the places, and on nothing else. -/
theorem fill_congr {values' : Table Value}
    (h : ∀ name ∈ t.places, values.get? name = values'.get? name) :
    t.fill values = t.fill values' := by
  unfold fill chars
  refine congrArg _ (List.flatMap_congr fun p hp => ?_)
  cases p with
  | literal text => rfl
  | place name => rw [PathPiece.filled, h name (PathPiece.mem_filterMap_name?.2 hp)]; rfl

/-! ### The theorem -/

variable {r : Router} {arguments : Table Value}

theorem route_result_of_undisturbed (hpath : r.path = t.text)
    (hplaces : ∀ name, r.destination name = .path ↔ name ∈ t.places)
    (hn : arguments.names.Nodup) (h : t.Undisturbed (r.share .path arguments)) :
    (r.route arguments).result
      = .ok ⟨t.fill arguments, r.share .query arguments, r.share .body arguments⟩ := by
  have hfill : t.fill (r.share .path arguments) = t.fill arguments :=
    fill_congr fun name hm => Router.get?_share ((hplaces name).2 hm) arguments
  rw [Router.route_result, Router.parts, hpath,
    renderPath_text (fun name hm => (hplaces name).1 (Router.destination_of_mem_share hm))
      (Router.nodup_names_share hn .path) h,
    hfill]

/-- **Every value fills its own place, if none is taken for a mark.**  Let a router have the path of
a template and take just the names of its places for the path.  Arguments are routed to the path
that is meant, unless a value makes the mark of a later argument in front of its place; whatever
their order, if no value of the path holds an opening brace. -/
theorem values_fill_their_own_places (t : PathTemplate) (hpath : r.path = t.text)
    (hplaces : ∀ name, r.destination name = .path ↔ name ∈ t.places)
    (hn : arguments.names.Nodup) :
    (t.Undisturbed (r.share .path arguments) →
      (r.route arguments).result
        = .ok ⟨t.fill arguments, r.share .query arguments, r.share .body arguments⟩) ∧
    ((∀ a ∈ r.share .path arguments, '\x7b' ∉ (pathText a.2).toList) →
      ∀ arguments', arguments'.Perm arguments → (r.route arguments').result
        = .ok ⟨t.fill arguments, r.share .query arguments', r.share .body arguments'⟩) := by
  refine ⟨route_result_of_undisturbed hpath hplaces hn, fun hvalues arguments' hp => ?_⟩
  have hn' : arguments'.names.Nodup := (hp.map Prod.fst).nodup_iff.2 hn
  have hshare : (r.share .path arguments').Perm (r.share .path arguments) := hp.filter _
  have h : t.Undisturbed (r.share .path arguments') := undisturbed_of_not_mem
    (fun name hm => (hplaces name).1 (Router.destination_of_mem_share hm))
    fun a ha => hvalues a (hshare.subset ha)
  rw [route_result_of_undisturbed hpath hplaces hn' h,
    fill_congr fun name _ => Table.get?_perm hp.symm hn name]

/-- The path of the lines of orders. -/
def lineTemplate : PathTemplate where
  pieces := [.literal "/orders/".toList, .place "id", .literal "/lines/".toList, .place "line"]
  plain := by
    unfold PathPiece.Plain
    decide
  distinct := by decide

/-- A router with the path of lines. -/
def lineRouter : Router :=
  ⟨"/orders/\x7bid\x7d/lines/\x7bline\x7d",
    [⟨"id", "path", none, none, true⟩, ⟨"line", "path", none, none, true⟩], []⟩

theorem destination_lineRouter (name : String) :
    lineRouter.destination name = .path ↔ name ∈ lineTemplate.places := by
  show _ ↔ name ∈ ["id", "line"]
  unfold Router.destination Parameter.find? lineRouter
  by_cases hid : "id" = name
  · subst hid
    decide
  · by_cases hline : "line" = name
    · subst hline
      decide
    · simp [hid, hline, Ne.symm hid, Ne.symm hline]

/-- Arguments for the path of lines. -/
def lineArguments (id line : Value) : Table Value := [("id", id), ("line", line)]

/-- A mark behind its place stays as it is, and so does a closing brace in any order. -/
theorem lines_fill_their_places :
    (lineRouter.route (lineArguments (.int 7) (.text "\x7bid\x7d"))).result
        = .ok ⟨"/orders/7/lines/\x7bid\x7d", [], []⟩ ∧
      (lineRouter.route (lineArguments (.text "7\x7d") (.int 2)).reverse).result
        = .ok ⟨"/orders/7\x7d/lines/2", [], []⟩ := by
  have hn (id line : Value) : (lineArguments id line).names.Nodup := by
    show ["id", "line"].Nodup
    decide
  refine ⟨(values_fill_their_own_places lineTemplate rfl destination_lineRouter (hn _ _)).1 ?_,
    (values_fill_their_own_places lineTemplate rfl destination_lineRouter
      (hn (.text "7\x7d") (.int 2))).2 (by decide) _ (List.reverse_perm _)⟩
  intro before name v after h
  match before with
  | [] =>
    cases h
    decide
  | [_] =>
    cases h
    decide
  | _ :: _ :: before =>
    have h := (List.cons.inj (List.cons.inj h).2).2
    simp at h

/-- **Values are taken for marks.**  The value of the first place is the mark of the second: if it
is put there first, the second value takes its place. -/
theorem values_are_taken_for_marks :
    lineTemplate.fill (lineArguments (.text "\x7bline\x7d") (.int 1))
        = "/orders/\x7bline\x7d/lines/1" ∧
      (lineRouter.route (lineArguments (.text "\x7bline\x7d") (.int 1))).result
        = .ok ⟨"/orders/1/lines/\x7bline\x7d", [], []⟩ ∧
      (lineRouter.route (lineArguments (.text "\x7bline\x7d") (.int 1)).reverse).result
        = .ok ⟨"/orders/\x7bline\x7d/lines/1", [], []⟩ := by
  refine ⟨by decide +kernel, ?_, ?_⟩
  · rfl
  · rfl

end PathTemplate
end ToolGateway
