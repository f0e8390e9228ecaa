import Mathlib.Data.List.Nodup
import TabletopDice.Proofs.Json.Codecs
import TabletopDice.Proofs.Json.Forms
import TabletopDice.Proofs.Json.Skipping

/-!
# Json — records

The members of an object are taken one after the other, and each sets the value of its key in a
draft, or none (`takes_member`); the elements of a list are taken in the order of the keys
(`takes_element`).  The draft is then completed with the values that stand for missing ones.

So a record is read from all of its texts, if what is missing in them is what its absence stands for
(`reads_object`, `reads_positional`); and reading stops where a key comes twice, before its value is
looked at (`stops_object`).

A record is written as an object with one member for each key, in the order of the keys and without
the values that are left out.  So a shape is lawful (`lawful_codecOf`) if no two keys are written
alike, the codecs of the values are lawful, and a value is left out only where it is the one that a
missing value stands for.
-/

namespace TabletopDice.Json

open Reader
open Form (IsMember IsElement RepeatsAfter)

/-- A shape by whose labels and values its records can be told. -/
structure Shape.Lawful (shape : Shape) : Prop where
  /-- No two members are written under one label. -/
  nodup_labels : (shape.keys.map shape.label).Nodup
  codec : ∀ k, (shape.codec k).Lawful
  /-- What is left out is what is read where a value is missing. -/
  omits : ∀ k v, shape.omits k v → shape.whenMissing k = some v

namespace Shape

variable {shape : Shape}

theorem Lawful.nodup (h : shape.Lawful) : shape.keys.Nodup :=
  List.Nodup.of_map shape.label h.nodup_labels

theorem Lawful.label_inj (h : shape.Lawful) {j k : shape.Key}
    (hjk : shape.label j = shape.label k) : j = k :=
  List.inj_on_of_nodup_map h.nodup_labels (shape.mem_keys j) (shape.mem_keys k) hjk

/-! ### Drafts -/

theorem Draft.set_self (d : shape.Draft) (k : shape.Key) (v : shape.Value k) :
    d.set k v k = some v :=
  dif_pos rfl

theorem Draft.set_of_ne {j k : shape.Key} (h : j ≠ k) (d : shape.Draft) (v : shape.Value k) :
    d.set k v j = d j :=
  dif_neg h

/-- A draft with the values of some keys set, one after the other. -/
def Draft.setAll (fields : shape.Fields) (d : shape.Draft) (keys : List shape.Key) : shape.Draft :=
  keys.foldl (fun d k => d.set k (fields k)) d

theorem Draft.setAll_of_mem {fields : shape.Fields} {keys : List shape.Key} {k : shape.Key}
    (h : k ∈ keys) (d : shape.Draft) : d.setAll fields keys k = some (fields k) := by
  -- a key that is set again is set to the same value
  have hkeeps : ∀ (keys : List shape.Key) (d : shape.Draft), d k = some (fields k) →
      d.setAll fields keys k = some (fields k) := by
    intro keys
    induction keys with
    | nil => intro d hd; exact hd
    | cons j keys ih =>
        intro d hd
        refine ih (d.set j (fields j)) ?_
        by_cases hjk : k = j
        · subst hjk
          exact Draft.set_self d k (fields k)
        · rw [Draft.set_of_ne hjk, hd]
  induction keys generalizing d with
  | nil => cases h
  | cons j keys ih =>
      rcases List.mem_cons.mp h with rfl | h
      · exact hkeeps keys _ (Draft.set_self d k (fields k))
      · exact ih h (d.set j (fields j))

theorem Draft.setAll_of_not_mem {fields : shape.Fields} {keys : List shape.Key} {k : shape.Key}
    (h : k ∉ keys) (d : shape.Draft) : d.setAll fields keys k = d k := by
  induction keys generalizing d with
  | nil => rfl
  | cons j keys ih =>
      rw [List.mem_cons, not_or] at h
      rw [← Draft.set_of_ne h.1 d (fields j)]
      exact ih h.2 (d.set j (fields j))

/-- A draft with all values of a record is complete. -/
theorem Draft.complete_eq {d : shape.Draft} {fields : shape.Fields}
    (h : ∀ k, d k = some (fields k)) : d.complete = .ok fields := by
  rw [Draft.complete]
  split
  · rename_i k hk
    have hnone := List.find?_some hk
    rw [h k] at hnone
    cases hnone
  · refine congrArg Except.ok (funext fun k => ?_)
    exact Option.get_of_eq_some _ (h k)

/-- A draft is completed to a record if the others have its value for every key that was not set. -/
theorem Draft.complete_or_eq {fields : shape.Fields} {keys : List shape.Key} {others : shape.Draft}
    (h : ∀ k, k ∉ keys → others k = some (fields k)) :
    ((Draft.empty.setAll fields keys).or others).complete = .ok fields := by
  refine Draft.complete_eq fun k => ?_
  rw [Draft.or]
  by_cases hk : k ∈ keys
  · rw [Draft.setAll_of_mem hk]
    rfl
  · rw [Draft.setAll_of_not_mem hk, h k hk]
    rfl

/-! ### Members -/

/-- What the codecs of a shape read, as the value of a key. -/
def Reads (shape : Shape) (k : shape.Key) (cs : List Char) (v : shape.Value k) : Prop :=
  (shape.codec k).reader.Reads cs v

/-- Where the codecs of a shape stop, because a key comes twice in the value of a key. -/
def Stops (shape : Shape) (k : shape.Key) (cs : List Char) (label : String) : Prop :=
  (shape.codec k).reader.Stops cs (.misshapen (.repeated label))

theorem key?_label (h : shape.Lawful) (k : shape.Key) :
    key? (shape.label k).toList = some k := by
  refine find?_of_unique (shape.mem_keys k) (decide_eq_true rfl) fun j _ hj => h.label_inj ?_
  exact String.toList_inj.mp (of_decide_eq_true hj)

theorem key?_eq_none {name : List Char} (h : ∀ k, (shape.label k).toList ≠ name) :
    (key? name : Option shape.Key) = none :=
  List.find?_eq_none.mpr fun k _ hk => h k (of_decide_eq_true hk)

/-- The members of an object, from any of them on, where the state is whether it is the first and
what was read before. -/
def membersAfter (state : Bool × shape.Draft) : Reader shape.Draft := loop memberStep state

/-- After its opening quote a member is read up to its value, and the name of its key selects the
reader of the value. -/
theorem run_member {name value cs : List Char} (h : MemberOf (LiteralOf · name) value cs) :
    ∃ tail ws, cs = '"' :: tail ∧ Blank ws ∧ ∀ {α : Type} {f : List Char → Reader α} {x : Reader α},
      f name = (colon.bind fun _ => x) →
      ∀ rest, (stringTail.bind f).run (tail ++ rest) = x.run (ws ++ (value ++ rest)) := by
  cases h with
  | @mk key ws ws' hkey hws hws' =>
      refine ⟨_, ws', rfl, hws', fun hf rest => ?_⟩
      simp only [List.append_assoc, List.cons_append]
      rw [run_bind_of_ok (run_stringTail hkey _), hf, run_bind_of_ok (run_colon hws _)]

/-- The value of a key that has none yet is read by its codec. -/
theorem run_member_new (h : shape.Lawful) {k : shape.Key} {value cs : List Char}
    (hcs : MemberOf (LiteralOf · (shape.label k).toList) value cs) {d : shape.Draft}
    (hk : d k = none) :
    ∃ tail ws, cs = '"' :: tail ∧ Blank ws ∧ ∀ rest, (member d).run (tail ++ rest) =
      ((shape.codec k).reader.map fun v => d.set k v).run (ws ++ (value ++ rest)) := by
  obtain ⟨tail, ws, rfl, hws, hrun⟩ := run_member hcs
  refine ⟨tail, ws, rfl, hws, hrun ?_⟩
  rw [key?_label h]
  dsimp only
  rw [hk, Option.isSome_none, if_neg Bool.false_ne_true]

/-- A member of a key that has no value yet sets its value, and any other member sets none. -/
theorem takes_member (h : shape.Lawful) {fields : shape.Fields} {cs : List Char}
    {k? : Option shape.Key} (hcs : IsMember shape.label shape.Reads fields cs k?) (first : Bool)
    {d : shape.Draft} (hd : ∀ k, k? = some k → d k = none) :
    Takes membersAfter Prod.fst cs (first, d) (false, d.setAll fields k?.toList) where
  not_first := rfl
  run_append {gap rest} hgap hrest := by
    have hmember : ∃ tail, cs = '"' :: tail ∧
        (member d).run (tail ++ rest) = .ok (d.setAll fields k?.toList, rest) := by
      cases hcs with
      | @known k value _ hvalue hmember =>
          obtain ⟨tail, ws, rfl, hws, hrun⟩ := run_member_new h hmember (hd k rfl)
          have hset := hvalue.map fun v => d.set k v
          exact ⟨tail, rfl, (hrun rest).trans (hset.run_append hws hrest)⟩
      | other hname hvalue hmember =>
          obtain ⟨tail, ws, rfl, hws, hrun⟩ := run_member hmember
          have hskipped := (reads_skipped hvalue).map fun _ => d
          refine ⟨tail, rfl, (hrun ?_ rest).trans (hskipped.run_append hws hrest)⟩
          rw [key?_eq_none hname]
    obtain ⟨tail, rfl, hrun⟩ := hmember
    rw [membersAfter, run_loop, memberStep, List.cons_append, run_nextMember hgap,
      run_map_of_ok hrun]
    rfl

/-- The members of an object set the values of their keys. -/
theorem takesAll_members (h : shape.Lawful) {fields : shape.Fields} {texts : List (List Char)}
    {keys : List (Option shape.Key)}
    (htexts : List.Forall₂ (IsMember shape.label shape.Reads fields) texts keys)
    (hnodup : keys.reduceOption.Nodup) (first : Bool) {d : shape.Draft}
    (hd : ∀ k, some k ∈ keys → d k = none) :
    ∃ first', TakesAll membersAfter Prod.fst texts (first, d)
      (first', d.setAll fields keys.reduceOption) := by
  induction htexts generalizing first d with
  | nil => exact ⟨first, .nil⟩
  | @cons cs k? texts keys hcs _ ih =>
      have htakes := takes_member h hcs first fun k hk => hd k (hk ▸ List.mem_cons_self)
      have hd' : ∀ k, some k ∈ keys → d.setAll fields k?.toList k = none := by
        intro k hk
        rw [Draft.setAll_of_not_mem, hd k (List.mem_cons_of_mem _ hk)]
        intro hmem
        rw [Option.mem_toList] at hmem
        subst hmem
        rw [List.reduceOption_cons_of_some, List.nodup_cons] at hnodup
        exact hnodup.1 (List.reduceOption_mem_iff.mpr hk)
      have hnodup' : keys.reduceOption.Nodup := by
        cases k? with
        | none => rwa [List.reduceOption_cons_of_none] at hnodup
        | some k =>
            rw [List.reduceOption_cons_of_some, List.nodup_cons] at hnodup
            exact hnodup.2
      obtain ⟨first', hall⟩ := ih hnodup' false hd'
      refine ⟨first', .cons htakes ?_⟩
      cases k? with
      | none => exact hall
      | some k => exact hall

/-- Reading stops at a key that has a value already, and in the value of a new key. -/
theorem run_member_repeated (h : shape.Lawful) (fields : shape.Fields)
    {keys : List (Option shape.Key)} {cs : List Char} {label : String}
    (hcs : RepeatsAfter shape.label shape.Stops keys cs label) :
    ∃ tail, cs = '"' :: tail ∧
      ∀ rest, (member (Draft.empty.setAll fields keys.reduceOption)).run (tail ++ rest) =
        .error (.misshapen (.repeated label)) := by
  cases hcs with
  | @key k literal hk hliteral =>
      refine ⟨literal ++ ['"'], rfl, fun rest => ?_⟩
      rw [List.append_assoc, member]
      refine (run_bind_of_ok (run_stringTail hliteral _) _).trans ?_
      rw [key?_label h]
      dsimp only
      rw [Draft.setAll_of_mem (List.reduceOption_mem_iff.mpr hk), Option.isSome_some, if_pos rfl,
        run_fault]
  | @value k value _ _ hk hvalue hmember =>
      have hnew : Draft.empty.setAll fields keys.reduceOption k = none :=
        Draft.setAll_of_not_mem (mt List.reduceOption_mem_iff.mp hk) _
      obtain ⟨tail, ws, rfl, hws, hrun⟩ := run_member_new h hmember hnew
      have hset := hvalue.map fun v => (Draft.empty.setAll fields keys.reduceOption).set k v
      exact ⟨tail, rfl, fun rest => (hrun rest).trans (hset.run_append hws rest)⟩

/-! ### Objects -/

/-- **Objects.**  A record is read from an object of its members, in any order and among others. -/
theorem reads_object (h : shape.Lawful) {fields : shape.Fields} {texts : List (List Char)}
    {keys : List (Option shape.Key)} {body : List Char}
    (htexts : List.Forall₂ (IsMember shape.label shape.Reads fields) texts keys)
    (hnodup : keys.reduceOption.Nodup)
    (hmissing : ∀ k, some k ∉ keys → shape.whenMissing k = some (fields k))
    (hbody : Spaced true texts body) :
    shape.reader.Reads ('\x7b' :: (body ++ ['\x7d'])) fields := by
  refine reads_value rfl fun rest _ => ?_
  obtain ⟨first', hall⟩ := takesAll_members h htexts hnodup true (d := .empty) fun k _ => rfl
  obtain ⟨ws, hws, hrun⟩ := hall.run_closing hbody (delimits_cons (c := '\x7d') rfl rest)
  have hmembers : members.run (body ++ '\x7d' :: rest) =
      .ok (Draft.empty.setAll fields keys.reduceOption, rest) := by
    refine hrun.trans ?_
    rw [membersAfter, run_loop, memberStep, run_nextMember_close hws, run_skipTo_cons]
  have hclosed : closed (Draft.empty.setAll fields keys.reduceOption) = .done fields := by
    rw [closed, Draft.complete_or_eq fun k hk => hmissing k (mt List.reduceOption_mem_iff.mpr hk)]
  rw [if_neg (by decide), if_pos rfl, List.cons_append, run_skipThen_cons, List.append_assoc,
    List.singleton_append]
  exact run_andThen_of_done hmembers hclosed

/-- An object is not read if a key comes twice in it, or in one of its values. -/
theorem stops_object (h : shape.Lawful) {fields : shape.Fields} {texts : List (List Char)}
    {keys : List (Option shape.Key)} {text body : List Char} {label : String}
    (htexts : List.Forall₂ (IsMember shape.label shape.Reads fields) texts keys)
    (hnodup : keys.reduceOption.Nodup)
    (htext : RepeatsAfter shape.label shape.Stops keys text label)
    (hbody : Spaced true (texts ++ [text]) body) :
    shape.reader.Stops ('\x7b' :: body) (.misshapen (.repeated label)) := by
  refine stops_value rfl fun rest => ?_
  obtain ⟨first', hall⟩ := takesAll_members h htexts hnodup true (d := .empty) fun k _ => rfl
  obtain ⟨gap, tail, hgap, hrun⟩ := hall.run_stopping hbody rest
  obtain ⟨cs, rfl, hmember⟩ := run_member_repeated h fields htext
  have hmembers : (members : Reader shape.Draft).run (body ++ rest) =
      .error (.misshapen (.repeated label)) := by
    refine hrun.trans ?_
    rw [membersAfter, run_loop, memberStep, List.cons_append, run_nextMember hgap,
      run_map_of_error (hmember tail)]
  rw [if_neg (by decide), if_pos rfl, List.cons_append, run_skipThen_cons]
  exact run_andThen_of_error hmembers _

/-! ### Lists -/

/-- The elements of a list from any of them on, where the state is the keys that come, whether the
element is the first, and what was read before. -/
def elementsFrom (state : List shape.Key × Bool × shape.Draft) : Reader shape.Fields :=
  elements state.1 state.2.1 state.2.2

/-- An element sets the value of the key whose turn it is. -/
theorem takes_element {fields : shape.Fields} {cs : List Char} {k : shape.Key}
    (hcs : IsElement shape.Reads fields cs k) (later : List shape.Key) (first : Bool)
    (d : shape.Draft) :
    Takes elementsFrom (·.2.1) cs (k :: later, first, d) (later, false, d.set k (fields k)) where
  not_first := rfl
  run_append {gap rest} hgap hrest := by
    have hrun := Reader.Reads.run hcs hrest
    obtain ⟨c, tail, rfl, hc⟩ := hcs.begins
    rw [elementsFrom, elements, List.cons_append, run_nextElement hgap _ _ hc, ← List.cons_append,
      run_bind_of_ok hrun]
    rfl

theorem takesAll_elements {fields : shape.Fields} {texts : List (List Char)}
    {keys : List shape.Key} (htexts : List.Forall₂ (IsElement shape.Reads fields) texts keys)
    (later : List shape.Key) (first : Bool) (d : shape.Draft) :
    ∃ first', TakesAll elementsFrom (·.2.1) texts (keys ++ later, first, d)
      (later, first', d.setAll fields keys) := by
  induction htexts generalizing first d with
  | nil => exact ⟨first, .nil⟩
  | @cons cs k texts keys hcs _ ih =>
      obtain ⟨first', hall⟩ := ih false (d.set k (fields k))
      exact ⟨first', .cons (takes_element hcs (keys ++ later) first d) hall⟩

theorem run_closeList {ws : List Char} (hws : Blank ws) (rest : List Char) :
    closeList.run (ws ++ ']' :: rest) = .ok ((), rest) := by
  rw [closeList, run_afterBlanks_peek _ _ hws rfl, if_pos rfl, run_skipTo_cons]

/-- A list may be closed before any key, if the others complete the record. -/
theorem run_elements_close {keys : List shape.Key} {first : Bool} {d : shape.Draft}
    {fields : shape.Fields} (h : cut d = .done fields) {ws : List Char} (hws : Blank ws)
    (rest : List Char) : (elements keys first d).run (ws ++ ']' :: rest) = .ok (fields, rest) := by
  cases keys with
  | nil => exact run_andThen_of_done (run_closeList hws rest) h
  | cons k keys =>
      rw [elements, run_nextElement_close hws]
      exact run_andThen_of_done (run_skipTo_cons () ']' rest) h

/-- **Lists.**  A record is read from a list of its values, in the order of the keys and without
some of the last ones. -/
theorem reads_positional {fields : shape.Fields} {texts : List (List Char)}
    {keys omitted : List shape.Key} {body : List Char} (hkeys : shape.keys = keys ++ omitted)
    (htexts : List.Forall₂ (IsElement shape.Reads fields) texts keys)
    (hcut : ∀ k ∈ omitted, shape.whenCut k = some (fields k)) (hbody : Spaced true texts body) :
    shape.reader.Reads ('[' :: (body ++ [']'])) fields := by
  refine reads_value rfl fun rest _ => ?_
  obtain ⟨first', hall⟩ := takesAll_elements htexts omitted true .empty
  obtain ⟨ws, hws, hrun⟩ := hall.run_closing hbody (delimits_cons (c := ']') rfl rest)
  have hdone : cut (Draft.empty.setAll fields keys) = .done fields := by
    have hothers : ∀ k, k ∉ keys → shape.whenCut k = some (fields k) := by
      intro k hk
      have hmem := shape.mem_keys k
      rw [hkeys, List.mem_append] at hmem
      exact hcut k (hmem.resolve_left hk)
    rw [cut, Draft.complete_or_eq hothers]
  rw [if_pos rfl, List.cons_append, run_skipThen_cons, List.append_assoc, List.singleton_append,
    hkeys]
  exact hrun.trans (run_elements_close hdone hws rest)

/-- A list is not read if a key comes twice in one of its values. -/
theorem stops_positional {fields : shape.Fields} {texts : List (List Char)}
    {keys later : List shape.Key} {k : shape.Key} {text body : List Char} {label : String}
    (hkeys : shape.keys = keys ++ k :: later)
    (htexts : List.Forall₂ (IsElement shape.Reads fields) texts keys)
    (htext : shape.Stops k text label) (hbody : Spaced true (texts ++ [text]) body) :
    shape.reader.Stops ('[' :: body) (.misshapen (.repeated label)) := by
  refine stops_value rfl fun rest => ?_
  obtain ⟨first', hall⟩ := takesAll_elements htexts (k :: later) true .empty
  obtain ⟨gap, tail, hgap, hrun⟩ := hall.run_stopping hbody rest
  have hstop := Reader.Stops.run htext tail
  obtain ⟨c, cs, rfl, hc⟩ := htext.begins
  rw [if_pos rfl, List.cons_append, run_skipThen_cons, hkeys]
  refine hrun.trans ?_
  rw [elementsFrom, elements, List.cons_append, run_nextElement hgap _ _ hc, ← List.cons_append,
    run_bind_of_error hstop]

/-! ### What is written -/

/-- The keys of a record whose values are written. -/
def writtenKeys (fields : shape.Fields) : List shape.Key :=
  shape.keys.filter fun k => !shape.omits k (fields k)

theorem mem_writtenKeys {fields : shape.Fields} {k : shape.Key} :
    k ∈ writtenKeys fields ↔ shape.omits k (fields k) = false := by
  rw [writtenKeys, List.mem_filter, Bool.not_eq_true']
  exact and_iff_right (shape.mem_keys k)

theorem isMember_writeMember (h : shape.Lawful) (fields : shape.Fields) (k : shape.Key) :
    IsMember shape.label shape.Reads fields (writeMember fields k) (some k) :=
  .known (h.codec k (fields k)) (memberOf_writeString _ _)

/-- **Records.**  A lawful shape reads every record that it writes. -/
theorem reads_write (h : shape.Lawful) (fields : shape.Fields) :
    shape.reader.Reads (write fields) fields := by
  have htexts : List.Forall₂ (IsMember shape.label shape.Reads fields)
      ((writtenKeys fields).map (writeMember fields)) ((writtenKeys fields).map some) := by
    rw [List.forall₂_map_left_iff, List.forall₂_map_right_iff, List.forall₂_same]
    exact fun k _ => isMember_writeMember h fields k
  refine reads_object h htexts ?_ (fun k hk => ?_) (spaced_intercalate _)
  · rw [List.reduceOption, List.filterMap_map, Function.id_comp, List.filterMap_some]
    exact h.nodup.filter _
  · refine h.omits k _ (Bool.not_eq_false _ ▸ fun ho => hk ?_)
    exact List.mem_map_of_mem (mem_writtenKeys.mpr ho)

/-- The codec of a lawful shape is lawful, where every value is the one of its record. -/
theorem lawful_codecOf {α : Type} (h : shape.Lawful) {ofFields : shape.Fields → α}
    {fields : α → shape.Fields} (hback : ∀ a, ofFields (fields a) = a) :
    (shape.codecOf ofFields fields).Lawful := by
  intro a
  have hmap := (reads_write h (fields a)).map ofFields
  rwa [hback] at hmap

end Shape

end TabletopDice.Json
