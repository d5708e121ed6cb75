import CrossSwap.Proofs.Ledger.Event
import CrossSwap.Proofs.Text.Base64
import CrossSwap.Proofs.Text.Blank

/-!
# The events of a log

A line of a log holds data if it is the label, blanks, the data in base 64 and blanks.  Reading a
log gives the events of the lines that hold the data of one, in order, and passes over the others.
It fails only at a line that starts with the discriminator of an event and is not the data of one.
-/

namespace CrossSwap.Event

variable {line : String} {lines : List String} {d : Bytes} {e : Event} {es : List Event}

/-! ## Lines -/

theorem behind?_eq_some_iff {label cs rest : List Char} :
    behind? label cs = some rest ↔ cs = label ++ rest := by
  induction label generalizing cs with
  | nil => simp [behind?]
  | cons c label ih =>
      cases cs with
      | nil => simp [behind?]
      | cons d cs =>
          rw [behind?, List.cons_append, List.cons.injEq]
          by_cases hsame : c = d
          · rw [if_pos hsame, ih, and_iff_right hsame.symm]
          · rw [if_neg hsame]
            exact iff_of_false (by simp) fun h => hsame h.1.symm

/-- The line is the label, the data in base 64, and blanks around the data. -/
def HoldsData (line : String) (d : Bytes) : Prop :=
  ∃ front back, Text.IsBlankRun front ∧ Text.IsBlankRun back ∧
    line.toList = dataLabel ++ (front ++ Base64.encode d ++ back)

def Announces (line : String) (e : Event) : Prop :=
  ∃ d, e.toLogData = .ok d ∧ HoldsData line d

/-- The line is passed over. -/
inductive Skipped (line : String) : Prop where
  | unlabelled (h : ¬dataLabel <+: line.toList)
  | garbled {rest : List Char} (hline : line.toList = dataLabel ++ rest)
      (h : ∀ d, Text.trim rest ≠ Base64.encode d)
  | short {d : Bytes} (hdata : HoldsData line d) (h : d.length < discriminatorSize)
  | foreign {d : Bytes} (hdata : HoldsData line d)
      (h : ∀ kind : EventKind, ¬kind.discriminator <+: d)

theorem lineData?_of_label {rest : List Char} (hline : line.toList = dataLabel ++ rest) :
    lineData? line = Base64.decode? (Text.trim rest) := by
  rw [lineData?, behind?_eq_some_iff.mpr hline]
  rfl

theorem lineData?_eq_some_iff : lineData? line = some d ↔ HoldsData line d := by
  constructor
  · intro h
    obtain ⟨rest, hlabel, hdecode⟩ := Option.bind_eq_some_iff.mp h
    obtain ⟨front, back, hfront, hback, hrest⟩ := Text.exists_eq_append_trim rest
    refine ⟨front, back, hfront, hback, ?_⟩
    rw [← Base64.decode?_eq_some_iff.mp hdecode, ← hrest]
    exact behind?_eq_some_iff.mp hlabel
  · rintro ⟨front, back, hfront, hback, hline⟩
    rw [lineData?_of_label hline,
      Text.trim_append hfront hback fun c => Base64.isBlank_of_mem_encode]
    exact Base64.decode?_encode d

theorem ofLine_of_holdsData (h : HoldsData line d) : ofLine line = ofLogData d := by
  rw [ofLine, lineData?_eq_some_iff.mpr h]

theorem ofLine_eq_some_iff : ofLine line = .ok (some e) ↔ Announces line e := by
  constructor
  · intro h
    cases hdata : lineData? line with
    | none =>
        rw [ofLine, hdata] at h
        cases h
    | some d =>
        have hholds := lineData?_eq_some_iff.mp hdata
        rw [ofLine_of_holdsData hholds] at h
        exact ⟨d, ofLogData_eq_some_iff.mp h, hholds⟩
  · rintro ⟨d, hwrite, hholds⟩
    rw [ofLine_of_holdsData hholds]
    exact ofLogData_eq_some_iff.mpr hwrite

theorem ofLine_eq_none_iff : ofLine line = .ok none ↔ Skipped line := by
  constructor
  · intro h
    cases hdata : lineData? line with
    | some d =>
        have hholds := lineData?_eq_some_iff.mp hdata
        rw [ofLine_of_holdsData hholds] at h
        exact .foreign hholds (ofLogData_eq_none_iff.mp h)
    | none =>
        by_cases hlabel : dataLabel <+: line.toList
        · obtain ⟨rest, hrest⟩ := hlabel
          refine .garbled hrest.symm fun d htrim => ?_
          rw [lineData?_of_label hrest.symm, htrim, Base64.decode?_encode] at hdata
          cases hdata
        · exact .unlabelled hlabel
  · intro h
    cases h with
    | unlabelled h =>
        cases hdata : lineData? line with
        | none => rw [ofLine, hdata]
        | some d =>
            obtain ⟨front, back, -, -, hline⟩ := lineData?_eq_some_iff.mp hdata
            exact absurd ⟨_, hline.symm⟩ h
    | @garbled rest hline h =>
        have hdata : lineData? line = none := by
          rw [lineData?_of_label hline, Option.eq_none_iff_forall_ne_some]
          intro d hdecode
          exact h d (Base64.decode?_eq_some_iff.mp hdecode)
        rw [ofLine, hdata]
    | short hdata h => rw [ofLine_of_holdsData hdata, ofLogData_of_lt h]
    | foreign hdata h => rw [ofLine_of_holdsData hdata, ofLogData_eq_none_iff.mpr h]

/-! ## Logs -/

/-- The events of the lines of a log, one for each line that is not passed over. -/
inductive Logged : List String → List Event → Prop where
  | nil : Logged [] []
  | announced {line : String} {e : Event} {lines : List String} {es : List Event}
      (hline : Announces line e) (h : Logged lines es) : Logged (line :: lines) (e :: es)
  | skipped {line : String} {lines : List String} {es : List Event}
      (hline : Skipped line) (h : Logged lines es) : Logged (line :: lines) es

theorem ofLog_cons (line : String) (lines : List String) :
    ofLog (line :: lines) = do
      let found ← ofLine line
      let es ← ofLog lines
      return found.toList ++ es := by
  rw [ofLog, ofLog, List.mapM_cons]
  cases ofLine line with
  | error fault => rfl
  | ok found =>
      cases lines.mapM ofLine with
      | error fault => rfl
      | ok rest => cases found <;> rfl

theorem ofLog_eq_ok_iff : ofLog lines = .ok es ↔ Logged lines es := by
  induction lines generalizing es with
  | nil =>
      constructor
      · intro h
        cases h
        exact .nil
      · intro h
        cases h
        rfl
  | cons line lines ih =>
      rw [ofLog_cons]
      constructor
      · intro h
        obtain ⟨found, hline, hrest⟩ := bind_eq_ok_iff.mp h
        obtain ⟨tail, hlog, htail⟩ := bind_eq_ok_iff.mp hrest
        rw [pure_eq_ok_iff] at htail
        subst htail
        cases found with
        | none => exact .skipped (ofLine_eq_none_iff.mp hline) (ih.mp hlog)
        | some e => exact .announced (ofLine_eq_some_iff.mp hline) (ih.mp hlog)
      · intro h
        cases h with
        | announced hline hlog =>
            apply bind_eq_ok_iff.mpr
            refine ⟨_, ofLine_eq_some_iff.mpr hline, bind_eq_ok_iff.mpr ?_⟩
            exact ⟨_, ih.mpr hlog, rfl⟩
        | skipped hline hlog =>
            apply bind_eq_ok_iff.mpr
            refine ⟨_, ofLine_eq_none_iff.mpr hline, bind_eq_ok_iff.mpr ?_⟩
            exact ⟨_, ih.mpr hlog, rfl⟩

theorem exists_logged_iff :
    (∃ es, Logged lines es) ↔ ∀ line ∈ lines, Skipped line ∨ ∃ e, Announces line e := by
  induction lines with
  | nil => exact iff_of_true ⟨[], .nil⟩ (List.forall_mem_nil _)
  | cons line lines ih =>
      rw [List.forall_mem_cons, ← ih]
      constructor
      · rintro ⟨es, h⟩
        cases h with
        | announced hline hlog => exact ⟨.inr ⟨_, hline⟩, _, hlog⟩
        | skipped hline hlog => exact ⟨.inl hline, _, hlog⟩
      · rintro ⟨hskipped | ⟨e, hline⟩, es, hlog⟩
        · exact ⟨es, .skipped hskipped hlog⟩
        · exact ⟨e :: es, .announced hline hlog⟩

theorem map_filterMap_createdOrder? (es : List Event) :
    (es.filterMap createdOrder?).map swapIntent = es.filter fun e => e.kind = .swapIntent := by
  induction es with
  | nil => rfl
  | cons e es ih =>
      cases e with
      | swapIntent order => exact congrArg (swapIntent order :: ·) ih
      | orderFilled id srcNid => exact ih
      | orderCancelled id srcNid => exact ih
      | orderClosed id => exact ih
      | sendMessage targetNetwork sn msg => exact ih

theorem createdOrders_eq_ok_iff {orders : List SwapOrder} :
    createdOrders lines = .ok orders ↔ ∃ es, Logged lines es ∧
      orders.map swapIntent = es.filter fun e => e.kind = .swapIntent := by
  have hinj : Function.Injective (List.map swapIntent) :=
    List.map_injective_iff.mpr fun _ _ h => Event.swapIntent.inj h
  constructor
  · intro h
    obtain ⟨es, hlog, horders⟩ := bind_eq_ok_iff.mp h
    rw [pure_eq_ok_iff] at horders
    subst horders
    exact ⟨es, ofLog_eq_ok_iff.mp hlog, map_filterMap_createdOrder? es⟩
  · rintro ⟨es, hlog, horders⟩
    apply bind_eq_ok_iff.mpr
    refine ⟨es, ofLog_eq_ok_iff.mpr hlog, ?_⟩
    rw [pure_eq_ok_iff]
    exact hinj (horders.trans (map_filterMap_createdOrder? es).symm)

/-- Data is read as an event exactly when it is the data of that event.  A log each line of which
holds the data of an event or is passed over gives exactly the events of the lines of the first
sort, in order, and the orders that its swap intents carry; no other log gives anything. -/
theorem ofLog_exact :
    (∀ e : Event, (∃ d, e.toLogData = .ok d) ↔ ∀ c ∈ e.contents, c.length < Nat.pow 2 32) ∧
    (∀ (d : Bytes) (e : Event), ofLogData d = .ok (some e) ↔ e.toLogData = .ok d) ∧
    ∀ lines : List String,
      ((∃ es, Logged lines es) ↔ ∀ line ∈ lines, Skipped line ∨ ∃ e, Announces line e) ∧
      (∀ es, ofLog lines = .ok es ↔ Logged lines es) ∧
      ∀ orders, createdOrders lines = .ok orders ↔
        ∃ es, Logged lines es ∧
          orders.map swapIntent = es.filter fun e => e.kind = .swapIntent := by
  refine ⟨fun e => exists_toLogData_iff, fun d e => ofLogData_eq_some_iff, fun lines => ?_⟩
  exact ⟨exists_logged_iff, fun es => ofLog_eq_ok_iff, fun orders => createdOrders_eq_ok_iff⟩

theorem ofLog_exact_foreign_lines :
    let order : SwapOrder :=
      { id := 1, emitter := "", srcNid := "a", dstNid := "b", creator := "c"
        destinationAddress := "d", token := "e", amount := 1, toToken := "f", toAmount := 1
        data := [] }
    let lines : List String :=
      ["Program log: swap", "Program data: *", "Program data: AAAA", "Program data: AQIDBAUGBwgJ",
        "Program data: eHxtQvl0rh4CAQAAAAAAAAAAAAAAAAAAAgAAAMOk\t ",
        "Program data:  IBQaWgGOAA0BAAAAAAAAAAAAAAAAAAAAAAAAAAEAAABhAQAAAGIBAAAAYwEAAABkAQAAAGUBAAA" ++
          "AAAAAAAAAAAAAAAAAAQAAAGYBAAAAAAAAAAAAAAAAAAAAAAAAAA=="]
    Logged lines [orderFilled 258 "ä", swapIntent order] ∧
      createdOrders lines = .ok [order] := by
  intro order lines
  obtain ⟨-, -, hlines⟩ := ofLog_exact
  obtain ⟨-, hlog, horders⟩ := hlines lines
  have hlogged : Logged lines [orderFilled 258 "ä", swapIntent order] :=
    (hlog _).mp (by decide +kernel)
  exact ⟨hlogged, (horders [order]).mpr ⟨_, hlogged, rfl⟩⟩

end CrossSwap.Event
