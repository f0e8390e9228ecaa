import TabletopDice.Proofs.Json.Records

/-!
# Json — readers that understand a form

A reader understands a form if it reads all texts that the form has for a value as this value, and
stops in all texts of the form in which a key comes twice (`Reader.Understands`).  The reader of a
list or a record understands a form if the readers of its parts do.

For a record the form and the shape have to agree: on the labels, on the order of the keys, and what
the form leaves out has to be what the shape has for it.  This is asked for in `understands_record`
and nowhere else.
-/

namespace TabletopDice.Json

variable {α β : Type}

/-- `x` reads what the form says, and no text that goes on after a key that comes twice. -/
structure Reader.Understands (x : Reader α) (form : Form α) : Prop where
  reads : ∀ {cs a}, form.Says cs a → x.Reads cs a
  stops : ∀ {cs label}, form.Repeats cs label → x.Stops cs (.misshapen (.repeated label))

/-! ### Whole texts -/

/-- A text that presents a value is decoded as the value. -/
theorem Reader.Understands.decode_eq_ok {x : Reader α} {form : Form α} (h : x.Understands form)
    {text : String} {a : α} (htext : form.Presents text a) : x.decode text = .ok a := by
  obtain ⟨before, cs, after, hbefore, hcs, hafter, htext⟩ := htext
  exact (h.reads hcs).decode_eq hbefore hafter htext

theorem Reader.Understands.decode_eq_error {x : Reader α} {form : Form α} (h : x.Understands form)
    {text : String} {label : String} (htext : form.Overwrites text label) :
    x.decode text = .error (.misshapen (.repeated label)) := by
  obtain ⟨before, cs, rest, hbefore, hcs, htext⟩ := htext
  exact (h.stops hcs).decode_eq hbefore htext

/-! ### Numbers, strings, lists -/

theorem understands_written {x : Codec α} (h : x.Lawful) :
    x.reader.Understands (.written x.write) where
  reads {cs a} hcs := by
    obtain rfl : cs = x.write a := hcs
    exact h a
  stops h := nomatch h

theorem understands_text : Codec.text.reader.Understands (.quoted id) where
  reads {cs text} hcs := by
    obtain ⟨literal, hliteral, rfl⟩ := hcs
    exact reads_text hliteral
  stops h := nomatch h

theorem understands_choice {choices : List α} {label : α → String} (mem : ∀ a, a ∈ choices)
    (inj : ∀ a b, label a = label b → a = b) :
    (Codec.choice choices label).reader.Understands (.quoted label) where
  reads {cs a} hcs := by
    obtain ⟨literal, hliteral, rfl⟩ := hcs
    exact reads_choice mem inj hliteral
  stops h := nomatch h

/-- No text of a value that is there may begin as `null` does. -/
theorem understands_optional {x : Codec α} {form : Form α} (h : x.reader.Understands form)
    (hword : ∀ {cs a}, form.Says cs a → cs.head? ≠ some 'n')
    (hword' : ∀ {cs label}, form.Repeats cs label → cs.head? ≠ some 'n') :
    x.optional.reader.Understands form.optional where
  reads {cs a} hcs := by
    cases a with
    | none =>
        obtain rfl : cs = ['n', 'u', 'l', 'l'] := hcs
        exact reads_null x
    | some a => exact reads_some (h.reads hcs) (hword hcs)
  stops hcs := stops_some (h.stops hcs) (hword' hcs)

theorem understands_list {x : Codec α} {form : Form α} (h : x.reader.Understands form) :
    (Codec.list x).reader.Understands form.list where
  reads hcs := by
    obtain ⟨texts, body, htexts, hbody, rfl⟩ := hcs
    exact reads_list (htexts.imp fun _ _ => h.reads) hbody
  stops hcs := by
    obtain ⟨texts, as, text, body, htexts, htext, hbody, rfl⟩ := hcs
    exact stops_list (htexts.imp fun _ _ => h.reads) (h.stops htext) hbody

theorem Reader.Understands.via {x : Reader α} {form : Form α} (h : x.Understands form)
    {there : α → β} {back : β → α} (hback : ∀ b, there (back b) = b) :
    (x.map there).Understands (form.via back) where
  reads {cs b} hcs := by
    have hmap := (h.reads hcs).map there
    rwa [hback] at hmap
  stops hcs := (h.stops hcs).map there

/-! ### Records -/

theorem Form.IsMember.imp {Key : Type} {Value : Key → Type} {label : Key → String}
    {Says Says' : (k : Key) → List Char → Value k → Prop}
    (h : ∀ {k cs v}, Says k cs v → Says' k cs v) {fields : (k : Key) → Value k} {cs : List Char}
    {k? : Option Key} (hcs : IsMember label Says fields cs k?) :
    IsMember label Says' fields cs k? := by
  cases hcs with
  | known hvalue hmember => exact .known (h hvalue) hmember
  | other hname hvalue hmember => exact .other hname hvalue hmember

/-- The reader of a lawful shape understands the records with its labels whose values its codecs
understand, if what they may leave out is what the shape has for it: in an object, and at the end of
a list. -/
theorem understands_record {shape : Shape} (h : shape.Lawful) {label : shape.Key → String}
    {order : List shape.Key} {forms : (k : shape.Key) → Form (shape.Value k)}
    {mayOmit : (k : shape.Key) → shape.Value k → Prop} (hlabel : ∀ k, shape.label k = label k)
    (horder : shape.keys = order) (hforms : ∀ k, (shape.codec k).reader.Understands (forms k))
    (hmissing : ∀ k v, mayOmit k v → shape.whenMissing k = some v)
    (hcut : ∀ (fields : shape.Fields) omitted, omitted <:+ shape.keys →
      (∀ k ∈ omitted, mayOmit k (fields k)) → ∀ k ∈ omitted, shape.whenCut k = some (fields k)) :
    shape.reader.Understands (.record label order forms mayOmit) where
  reads {cs fields} hcs := by
    obtain rfl : shape.label = label := funext hlabel
    subst horder
    cases hcs with
    | object htexts hnodup homit hbody =>
        exact Shape.reads_object h
          (htexts.imp fun _ _ => Form.IsMember.imp fun hcs => (hforms _).reads hcs)
          hnodup (fun k hk => hmissing k _ (homit k hk)) hbody
    | list hkeys htexts homit hbody =>
        refine Shape.reads_positional hkeys (htexts.imp fun _ _ hcs => (hforms _).reads hcs)
          (hcut fields _ ?_ homit) hbody
        rw [hkeys]
        exact List.suffix_append _ _
  stops {cs repeated} hcs := by
    obtain rfl : shape.label = label := funext hlabel
    subst horder
    cases hcs with
    | object htexts hnodup htext hbody =>
        refine Shape.stops_object h
          (htexts.imp fun _ _ => Form.IsMember.imp fun hcs => (hforms _).reads hcs)
          hnodup ?_ hbody
        cases htext with
        | key hk hliteral => exact .key hk hliteral
        | value hk hvalue hmember => exact .value hk ((hforms _).stops hvalue) hmember
    | list hkeys htexts htext hbody =>
        exact Shape.stops_positional hkeys (htexts.imp fun _ _ hcs => (hforms _).reads hcs)
          ((hforms _).stops htext) hbody

end TabletopDice.Json
