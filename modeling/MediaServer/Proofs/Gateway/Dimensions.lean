import Mathlib.Data.Nat.Digits.Defs
import MediaServer.Gateway.Endpoints
import MediaServer.Gateway.Stage
import MediaServer.Proofs.Text.Digits

namespace MediaServer

/-- A text of digits, any number of them, that a plus sign may precede, and the number that they write. -/
def IsNumeral (text : String) (number : Nat) : Prop :=
  ∃ sign digits, text.toList = sign ++ digits ∧ (sign = [] ∨ sign = ['+']) ∧ digits ≠ [] ∧
    (∀ c ∈ digits, '0' ≤ c ∧ c ≤ '9') ∧
    Nat.ofDigits 10 (digits.reverse.map fun c => c.toNat - '0'.toNat) = number

/-- The first of the values that a query has for a name, after its pairs are decoded. -/
def IsFirstValue (query name value : String) : Prop :=
  ∃ before after, Form.decode query = before ++ (name, value) :: after ∧ ∀ pair ∈ before, pair.1 ≠ name

/-- The size that a query asks for under a name, if it names one at all: a number from 1 to a limit. -/
inductive AsksSize (query name : String) (limit : Nat) : Option Nat → Prop
  | absent (unnamed : ∀ pair ∈ Form.decode query, pair.1 ≠ name) : AsksSize query name limit none
  | given {value : String} {size : Nat} (first : IsFirstValue query name value) (numeral : IsNumeral value size)
      (positive : 1 ≤ size) (bound : size ≤ limit) : AsksSize query name limit (some size)

/-- What is told of a query that does not ask for acceptable sizes. The width is looked at first. -/
inductive RefusesSizes (query : String) (maxWidth maxHeight : Nat) : String → Prop
  | width (bad : ¬ ∃ size?, AsksSize query "width" maxWidth size?) :
      RefusesSizes query maxWidth maxHeight ("width must be between 1 and " ++ toString maxWidth)
  | height (wide : ∃ size?, AsksSize query "width" maxWidth size?)
      (bad : ¬ ∃ size?, AsksSize query "height" maxHeight size?) :
      RefusesSizes query maxWidth maxHeight ("height must be between 1 and " ++ toString maxHeight)

/-- Both sizes and the method that a query asks for are acceptable. -/
structure Settings.AcceptsThumbnail (settings : Settings) (query : String) : Prop where
  width : ∃ size?, AsksSize query "width" settings.thumbnails.maxWidth size?
  height : ∃ size?, AsksSize query "height" settings.thumbnails.maxHeight size?
  method : ∀ method, IsFirstValue query "method" method → method = "crop" ∨ method = "scale"

/-- What is told of a query that is not acceptable. The method is looked at last. -/
inductive Settings.RefusesThumbnail (settings : Settings) (query : String) : String → Prop
  | sizes {message : String}
      (bad : RefusesSizes query settings.thumbnails.maxWidth settings.thumbnails.maxHeight message) :
      RefusesThumbnail settings query message
  | method (wide : ∃ size?, AsksSize query "width" settings.thumbnails.maxWidth size?)
      (high : ∃ size?, AsksSize query "height" settings.thumbnails.maxHeight size?) {method : String}
      (first : IsFirstValue query "method" method) (bad : method ≠ "crop" ∧ method ≠ "scale") :
      RefusesThumbnail settings query "method must be crop or scale"

theorem exists_refusesSizes {query : String} {maxWidth maxHeight : Nat}
    (bad : ¬ ((∃ size?, AsksSize query "width" maxWidth size?) ∧ ∃ size?, AsksSize query "height" maxHeight size?)) :
    ∃ message, RefusesSizes query maxWidth maxHeight message := by
  by_cases wide : ∃ size?, AsksSize query "width" maxWidth size?
  · exact ⟨_, .height wide fun high => bad ⟨wide, high⟩⟩
  · exact ⟨_, .width wide⟩

theorem Settings.exists_refusesThumbnail {settings : Settings} {query : String}
    (bad : ¬ settings.AcceptsThumbnail query) : ∃ message, settings.RefusesThumbnail query message := by
  by_cases sizes : (∃ size?, AsksSize query "width" settings.thumbnails.maxWidth size?) ∧
      ∃ size?, AsksSize query "height" settings.thumbnails.maxHeight size?
  · have other : ¬ ∀ method, IsFirstValue query "method" method → method = "crop" ∨ method = "scale" :=
      fun method => bad ⟨sizes.1, sizes.2, method⟩
    push Not at other
    obtain ⟨method, first, neither⟩ := other
    exact ⟨_, .method sizes.1 sizes.2 first neither⟩
  · obtain ⟨message, refuses⟩ := exists_refusesSizes sizes
    exact ⟨message, .sizes refuses⟩

/-- What a request for a thumbnail comes to once the item is looked up. -/
def Context.lookedUpThumbnail (context : Context) (disk : Disk) : Outcome :=
  ⟨.ofExcept .media ((context.findMedia disk).1.map fun media => media.stream media.filename), [],
    (context.findMedia disk).2⟩

section Reading

theorem ofDigits_eq_ofDigits_reverse (digits : List Char) :
    ofDigits digits = Nat.ofDigits 10 (digits.reverse.map fun c => c.toNat - '0'.toNat) := by
  rw [Nat.ofDigits_eq_foldr, List.foldr_map, List.foldr_reverse, ofDigits]
  congr 1
  funext value c
  rw [digitValue, Nat.mul_comm, Nat.add_comm]
  rfl

/-- Just the numerals of numbers up to the limit are read, as these numbers. -/
theorem readUnsigned?_iff_isNumeral {limit number : Nat} {text : String} :
    readUnsigned? limit text = some number ↔ IsNumeral text number ∧ number ≤ limit := by
  have digit : ∀ c, isDigit c = true ↔ '0' ≤ c ∧ c ≤ '9' := fun c => by simp [isDigit]
  rw [readUnsigned?_eq_some_iff]
  simp only [IsNumeral, digit, ofDigits_eq_ofDigits_reverse]
  constructor
  · rintro ⟨sign, digits, split, signed, filled, all, value, bound⟩
    exact ⟨⟨sign, digits, split, signed, filled, all, value⟩, bound⟩
  · rintro ⟨⟨sign, digits, split, signed, filled, all, value⟩, bound⟩
    exact ⟨sign, digits, split, signed, filled, all, value, bound⟩

/-- A check of a size passes, or it comes to the one refusal that it has. -/
theorem Context.dimension_cases (context : Context) (name : String) (limit : Nat) :
    (∃ size?, context.dimension name limit = .ok size?) ∨
      context.dimension name limit =
        .error (.badRequest (name ++ " must be between 1 and " ++ toString limit)) := by
  unfold dimension
  dsimp only
  split
  · exact Or.inl ⟨_, rfl⟩
  · split
    · exact Or.inr rfl
    · split
      · exact Or.inl ⟨_, rfl⟩
      · exact Or.inr rfl

variable {context : Context} {query : String} (decoded : context.query = Form.decode query)
  {name : String} {limit : Nat}

include decoded

theorem Context.param?_eq_some_iff {value : String} :
    context.param? name = some value ↔ IsFirstValue query name value := by
  rw [param?, decoded, List.lookup_eq_some_iff, IsFirstValue]
  simp only [bne_iff_ne, ne_comm]

theorem Context.param?_eq_none_iff : context.param? name = none ↔ ∀ pair ∈ Form.decode query, pair.1 ≠ name := by
  rw [param?, decoded, List.lookup_eq_none_iff]
  simp only [bne_iff_ne, ne_comm]

/-- A size passes its check exactly if the query asks for it. -/
theorem Context.dimension_eq_ok_iff (fits : limit ≤ max32) {size? : Option Nat} :
    context.dimension name limit = .ok size? ↔ AsksSize query name limit size? := by
  rcases given : context.param? name with _ | value
  · have unnamed := (param?_eq_none_iff decoded).mp given
    simp only [dimension, given, Except.ok.injEq]
    constructor
    · rintro rfl
      exact .absent unnamed
    · rintro (_ | ⟨first, _, _, _⟩)
      · rfl
      · rw [(param?_eq_some_iff decoded).mpr first] at given
        cases given
  · have first := (param?_eq_some_iff decoded).mp given
    have only : ∀ {other}, IsFirstValue query name other → other = value := fun again =>
      Option.some.inj (((param?_eq_some_iff decoded).mpr again).symm.trans given)
    simp only [dimension, given]
    constructor
    · intro passed
      split at passed
      · cases passed
      · rename_i size read
        split at passed
        · rename_i within
          cases passed
          rw [Bool.and_eq_true, decide_eq_true_eq, decide_eq_true_eq] at within
          exact .given first (readUnsigned?_iff_isNumeral.mp read).1 within.1 within.2
        · cases passed
    · rintro (unnamed | ⟨again, numeral, positive, bound⟩)
      · rw [(param?_eq_none_iff decoded).mpr unnamed] at given
        cases given
      · rw [only again] at numeral
        have read := readUnsigned?_iff_isNumeral.mpr ⟨numeral, Nat.le_trans bound fits⟩
        simp only [read]
        rw [if_pos (by simp [Nat.lt_of_succ_le positive, bound])]

theorem Context.dimension_eq_error (fits : limit ≤ max32) (bad : ¬ ∃ size?, AsksSize query name limit size?) :
    context.dimension name limit =
      .error (.badRequest (name ++ " must be between 1 and " ++ toString limit)) := by
  rcases context.dimension_cases name limit with ⟨size?, passed⟩ | refused
  · exact absurd ⟨size?, (dimension_eq_ok_iff decoded fits).mp passed⟩ bad
  · exact refused

end Reading

section Thumbnail

theorem Settings.RefusesThumbnail.ne_missing {settings : Settings} {query message : String}
    (refuses : settings.RefusesThumbnail query message) : message ≠ "Missing server or media id" := by
  intro same
  have first := congrArg (fun text : String => text.toList.head?) same
  cases refuses with
  | sizes bad => cases bad <;> simp at first
  | method => simp at first

theorem Context.findMedia_badRequest {context : Context} {disk : Disk} {message : String}
    (refused : (context.findMedia disk).1 = .error (.badRequest message)) :
    message = "Missing server or media id" := by
  unfold findMedia at refused
  split at refused
  · split at refused
    · cases refused
    · split at refused <;> cases refused
  · cases refused
    rfl

/-- Nothing that is told of a query is told by a look-up. -/
theorem Context.lookedUpThumbnail_ne {context : Context} {query message : String}
    (refuses : context.settings.RefusesThumbnail query message) (disk : Disk) :
    context.lookedUpThumbnail disk ≠ ⟨.error (.badRequest message), [], disk⟩ := by
  intro same
  have reply := congrArg Outcome.reply same
  rw [lookedUpThumbnail] at reply
  rcases looked : (context.findMedia disk).1 with fault | media
  · rw [looked] at reply
    cases reply
    exact refuses.ne_missing (findMedia_badRequest looked)
  · rw [looked] at reply
    cases reply

variable {context : Context} {query : String} (decoded : context.query = Form.decode query)
  (widthFits : context.settings.thumbnails.maxWidth ≤ max32)
  (heightFits : context.settings.thumbnails.maxHeight ≤ max32)

include decoded widthFits heightFits

theorem Context.thumbnailFault?_of_accepts (accepts : context.settings.AcceptsThumbnail query) :
    context.thumbnailFault? = none := by
  obtain ⟨⟨width?, wide⟩, ⟨height?, high⟩, methods⟩ := accepts
  have width := (dimension_eq_ok_iff decoded widthFits).mpr wide
  have height := (dimension_eq_ok_iff decoded heightFits).mpr high
  have method : (context.param? "method").all (fun method => method == "crop" || method == "scale") = true := by
    rcases given : context.param? "method" with _ | method
    · rfl
    · simpa using methods method ((param?_eq_some_iff decoded).mp given)
  simp only [thumbnailFault?, width, height, if_pos method]

theorem Context.thumbnailFault?_of_refuses {message : String}
    (refuses : context.settings.RefusesThumbnail query message) :
    context.thumbnailFault? = some (.badRequest message) := by
  cases refuses with
  | sizes bad =>
    cases bad with
    | width bad =>
      simp only [thumbnailFault?, dimension_eq_error decoded widthFits bad]
      rfl
    | height wide bad =>
      obtain ⟨width?, width⟩ := wide
      simp only [thumbnailFault?, (dimension_eq_ok_iff decoded widthFits).mpr width,
        dimension_eq_error decoded heightFits bad]
      rfl
  | @method wide high method first bad =>
    obtain ⟨width?, width⟩ := wide
    obtain ⟨height?, height⟩ := high
    simp only [thumbnailFault?, (dimension_eq_ok_iff decoded widthFits).mpr width,
      (dimension_eq_ok_iff decoded heightFits).mpr height, (param?_eq_some_iff decoded).mpr first]
    rw [if_neg (by simpa using bad)]

/-- A thumbnail is looked up exactly if the query is acceptable. If not, this is told, and the disk is left
alone. -/
theorem Context.thumbnail_iff (disk : Disk) :
    (context.thumbnail disk = context.lookedUpThumbnail disk ↔ context.settings.AcceptsThumbnail query) ∧
      ∀ message, context.settings.RefusesThumbnail query message →
        context.thumbnail disk = ⟨.error (.badRequest message), [], disk⟩ := by
  have refused : ∀ message, context.settings.RefusesThumbnail query message →
      context.thumbnail disk = ⟨.error (.badRequest message), [], disk⟩ := by
    intro message refuses
    rw [thumbnail, thumbnailFault?_of_refuses decoded widthFits heightFits refuses]
  refine ⟨⟨fun looked => ?_, fun accepts => ?_⟩, refused⟩
  · by_contra bad
    obtain ⟨message, refuses⟩ := Settings.exists_refusesThumbnail bad
    rw [refused message refuses] at looked
    exact lookedUpThumbnail_ne refuses disk looked.symm
  · rw [thumbnail, thumbnailFault?_of_accepts decoded widthFits heightFits accepts]
    rfl

end Thumbnail

/-- What a maker is asked to draw: a seed, a width and a height. -/
abbrev Drawing := String × Nat × Nat

/-- A maker that writes down what it is asked for. -/
def IdenticonMaker.noted (draw : IdenticonMaker) (seed : String) (width height : Nat) :
    StateM (List Drawing) Bytes := do
  modify (· ++ [(seed, width, height)])
  return draw seed width height

/-- The drawings that the maker of a request is asked for, one after the other. -/
def Context.drawings (context : Context) (draw : IdenticonMaker) : List Drawing :=
  ((context.drawIdenticon draw.noted).run []).2

section Identicon

variable {context : Context} {query : String}

/-- A maker that writes down its calls gives the same answers. -/
theorem Context.drawIdenticon_noted (draw : IdenticonMaker) (drawn : List Drawing) :
    ((context.drawIdenticon draw.noted).run drawn).1 =
      Id.run (context.drawIdenticon fun seed width height => pure (draw seed width height)) := by
  unfold drawIdenticon
  rcases context.dimension "width" identiconLimit with fault | width
  · rfl
  · rcases context.dimension "height" identiconLimit with fault | height <;> rfl

variable (decoded : context.query = Form.decode query)

include decoded

/-- Whatever effects a maker has, those of a request for acceptable sizes are the effects of one call. -/
theorem Context.drawIdenticon_of_sizes {m : Type → Type} [Monad m] [LawfulMonad m]
    (draw : String → Nat → Nat → m Bytes) {width? height? : Option Nat}
    (wide : AsksSize query "width" identiconLimit width?) (high : AsksSize query "height" identiconLimit height?) :
    context.drawIdenticon draw =
      (fun bytes => .ok (.png bytes)) <$>
        draw ((context.capture? "seed").getD "") (width?.getD identiconSize) (height?.getD identiconSize) := by
  have fits : identiconLimit ≤ max32 := by decide
  simp only [drawIdenticon, (dimension_eq_ok_iff decoded fits).mpr wide,
    (dimension_eq_ok_iff decoded fits).mpr high, map_eq_pure_bind]

/-- For other sizes the maker is not called. -/
theorem Context.drawIdenticon_of_refuses {m : Type → Type} [Monad m] (draw : String → Nat → Nat → m Bytes)
    {message : String} (refuses : RefusesSizes query identiconLimit identiconLimit message) :
    context.drawIdenticon draw = pure (.error (.badRequest message)) := by
  have fits : identiconLimit ≤ max32 := by decide
  cases refuses with
  | width bad =>
    simp only [drawIdenticon, dimension_eq_error decoded fits bad]
    rfl
  | height wide bad =>
    obtain ⟨width?, width⟩ := wide
    simp only [drawIdenticon, (dimension_eq_ok_iff decoded fits).mpr width,
      dimension_eq_error decoded fits bad]
    rfl

variable (enabled : context.settings.identiconsEnabled = true) {draw : IdenticonMaker}
  (wired : context.identicons? = some draw)

omit decoded in
include enabled wired in
/-- Whose identicons are enabled and have a maker gets what it draws. -/
theorem Context.identicon_eq_noted (drawn : List Drawing) :
    context.identicon = ((context.drawIdenticon draw.noted).run drawn).1 := by
  rw [drawIdenticon_noted, identicon, enabled, wired]
  rfl

include enabled wired

theorem Context.drawings_of_sizes {width? height? : Option Nat}
    (wide : AsksSize query "width" identiconLimit width?) (high : AsksSize query "height" identiconLimit height?) :
    let seed := (context.capture? "seed").getD ""
    let width := width?.getD identiconSize
    let height := height?.getD identiconSize
    context.drawings draw = [(seed, width, height)] ∧
      context.identicon = .ok (.png (draw seed width height)) := by
  have called := drawIdenticon_of_sizes decoded draw.noted wide high
  rw [identicon_eq_noted enabled wired [], drawings, called]
  exact ⟨rfl, rfl⟩

theorem Context.drawings_of_refuses {message : String}
    (refuses : RefusesSizes query identiconLimit identiconLimit message) :
    context.drawings draw = [] ∧ context.identicon = .error (.badRequest message) := by
  have uncalled := drawIdenticon_of_refuses decoded draw.noted refuses
  rw [identicon_eq_noted enabled wired [], drawings, uncalled]
  exact ⟨rfl, rfl⟩

theorem Context.drawings_ne_nil_iff :
    context.drawings draw ≠ [] ↔ (∃ width?, AsksSize query "width" identiconLimit width?) ∧
      ∃ height?, AsksSize query "height" identiconLimit height? := by
  constructor
  · intro drawn
    by_contra bad
    obtain ⟨message, refuses⟩ := exists_refusesSizes bad
    exact drawn (drawings_of_refuses decoded enabled wired refuses).1
  · rintro ⟨⟨width?, wide⟩, height?, high⟩
    rw [(drawings_of_sizes decoded enabled wired wide high).1]
    exact List.cons_ne_nil _ _

end Identicon

theorem AsksSize.bounds {query name : String} {limit size : Nat} {size? : Option Nat}
    (asks : AsksSize query name limit size?) (positive : 1 ≤ size) (bound : size ≤ limit) :
    1 ≤ size?.getD size ∧ size?.getD size ≤ limit := by
  cases asks with
  | absent => exact ⟨positive, bound⟩
  | given _ _ least most => exact ⟨least, most⟩

/-- A request for a thumbnail goes on to the look-up of the item exactly if its query is acceptable, and else it
is answered as a bad request with the disk as it was. The maker of identicons is called exactly if the sizes are
acceptable, once and for just the sizes that the query writes, none of which is zero or above the limit. -/
theorem Context.dimensions_checked (context : Context) {query : String} (decoded : context.query = Form.decode query)
    (widthFits : context.settings.thumbnails.maxWidth ≤ max32)
    (heightFits : context.settings.thumbnails.maxHeight ≤ max32) :
    (∀ disk,
      (context.thumbnail disk = context.lookedUpThumbnail disk ↔ context.settings.AcceptsThumbnail query) ∧
      (¬ context.settings.AcceptsThumbnail query → ∃ message,
        context.settings.RefusesThumbnail query message ∧
        context.thumbnail disk = ⟨.error (.badRequest message), [], disk⟩ ∧
        ((context.thumbnail disk).reply.encode disk).1.status = 400)) ∧
    ∀ draw, context.settings.identiconsEnabled = true → context.identicons? = some draw →
      context.identicon = ((context.drawIdenticon draw.noted).run []).1 ∧
      (context.drawings draw ≠ [] ↔
        (∃ width?, AsksSize query "width" 512 width?) ∧ ∃ height?, AsksSize query "height" 512 height?) ∧
      (∀ width? height?, AsksSize query "width" 512 width? → AsksSize query "height" 512 height? →
        let seed := (context.capture? "seed").getD ""
        context.drawings draw = [(seed, width?.getD 96, height?.getD 96)] ∧
          context.identicon = .ok (.png (draw seed (width?.getD 96) (height?.getD 96)))) ∧
      (context.drawings draw = [] → ∃ message,
        RefusesSizes query 512 512 message ∧ context.identicon = .error (.badRequest message)) ∧
      ∀ drawing ∈ context.drawings draw,
        (1 ≤ drawing.2.1 ∧ drawing.2.1 ≤ 512) ∧ 1 ≤ drawing.2.2 ∧ drawing.2.2 ≤ 512 := by
  refine ⟨fun disk => ?_, fun draw enabled wired => ?_⟩
  · obtain ⟨looked, refused⟩ := thumbnail_iff decoded widthFits heightFits disk
    refine ⟨looked, fun bad => ?_⟩
    obtain ⟨message, refuses⟩ := Settings.exists_refusesThumbnail bad
    refine ⟨message, refuses, refused message refuses, ?_⟩
    rw [refused message refuses]
    rfl
  · have called := drawings_ne_nil_iff decoded enabled wired
    refine ⟨identicon_eq_noted enabled wired [], called, ?_, fun undrawn => ?_, fun drawing drawn => ?_⟩
    · intro width? height? wide high
      exact drawings_of_sizes decoded enabled wired wide high
    · obtain ⟨message, refuses⟩ := exists_refusesSizes fun sizes => called.mpr sizes undrawn
      exact ⟨message, refuses, (drawings_of_refuses decoded enabled wired refuses).2⟩
    · obtain ⟨⟨width?, wide⟩, height?, high⟩ := called.mp (List.ne_nil_of_mem drawn)
      rw [(drawings_of_sizes decoded enabled wired wide high).1, List.mem_singleton] at drawn
      subst drawn
      exact ⟨wide.bounds (by decide) (by decide), high.bounds (by decide) (by decide)⟩

/-- Writes out what it is asked for. -/
def writtenDrawing : IdenticonMaker :=
  fun seed width height => Utf8.encode (seed ++ ":" ++ toString width ++ "x" ++ toString height)

/-- What a handler gets to see of a query, with the usual settings. -/
def sizedContext (query : String) : Context :=
  let request : Request := ⟨"GET", ⟨none, "/", some query⟩, [], ⟨[], .complete⟩, none, 0, "", fun _ => true⟩
  Gateway.context ⟨.default, .empty, some writtenDrawing⟩ request 0 [("seed", "@alice")]

/-- The first width counts, with its sign and its zeros. A number that is 32 only in 32 bits is refused. -/
theorem sizedContext_checked :
    let signed := sizedContext "width=%2B0032&width=0&method=crop"
    let wrapped := sizedContext "width=4294967328"
    (∀ disk, signed.thumbnail disk = signed.lookedUpThumbnail disk) ∧
      signed.drawings writtenDrawing = [("@alice", 32, 96)] ∧
      wrapped.drawings writtenDrawing = [] ∧
      ∃ message, wrapped.identicon = .error (.badRequest message) := by
  intro signed wrapped
  have width : IsFirstValue "width=%2B0032&width=0&method=crop" "width" "+0032" :=
    ⟨[], [("width", "0"), ("method", "crop")], by decide +kernel, List.forall_mem_nil _⟩
  have numeral : IsNumeral "+0032" 32 :=
    ⟨['+'], ['0', '0', '3', '2'], by decide, Or.inr rfl, List.cons_ne_nil _ _, by simp, by simp [Nat.ofDigits]⟩
  have noHeight : ∀ pair ∈ Form.decode "width=%2B0032&width=0&method=crop", pair.1 ≠ "height" := by decide +kernel
  have wide : ∀ {limit}, 32 ≤ limit → AsksSize "width=%2B0032&width=0&method=crop" "width" limit (some 32) :=
    fun bound => .given width numeral (by decide) bound
  have accepts : signed.settings.AcceptsThumbnail "width=%2B0032&width=0&method=crop" := by
    refine ⟨⟨_, wide (by decide)⟩, ⟨_, .absent noHeight⟩, ?_⟩
    intro method first
    have given : signed.param? "method" = some "crop" := by decide +kernel
    exact Or.inl (Option.some.inj (((Context.param?_eq_some_iff rfl).mpr first).symm.trans given))
  have one := signed.dimensions_checked rfl (by decide) (by decide)
  have other := wrapped.dimensions_checked rfl (by decide) (by decide)
  have undrawn : wrapped.drawings writtenDrawing = [] := by decide +kernel
  refine ⟨fun disk => (one.1 disk).1.mpr accepts, ?_, undrawn, ?_⟩
  · exact ((one.2 writtenDrawing rfl rfl).2.2.1 _ _ (wide (by decide)) (.absent noHeight)).1
  · obtain ⟨message, _, refused⟩ := (other.2 writtenDrawing rfl rfl).2.2.2.1 undrawn
    exact ⟨message, refused⟩

end MediaServer
