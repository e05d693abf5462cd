import Mathlib.Data.List.Basic

/-! Markup built of fixed tags and of texts put between them: what a browser makes of it, given how
it reads what a less-than sign begins. Texts are sequences of UTF-16 code units. -/

namespace Foundation.Html

abbrev Text := List UInt16

def amp : UInt16 := 0x26

def lt : UInt16 := 0x3C

/-- What the tokenizer of a document emits: a unit of text, or a stretch of the source that is no
text. -/
inductive Token where
  | unit (u : UInt16)
  | markup (source : Text)
  deriving DecidableEq

structure Browser (σ : Type) where
  /-- What begins if the unit stands behind a less-than sign, if anything does. -/
  starts : UInt16 → Option σ
  /-- The state after one more unit, or none where the unit is the last. -/
  feed : σ → UInt16 → Option σ
  /-- The text of a run of units, its character references replaced. -/
  decode : Text → Text

inductive Mode (σ : Type) where
  | data
  | opened
  | markup (state : σ) (source : Text)

section Tokenizer

variable {σ : Type} (browser : Browser σ)

def tokens : Mode σ → Text → List Token
  | .data, [] => []
  | .data, u :: rest =>
    if u = lt then tokens .opened rest else .unit u :: tokens .data rest
  | .opened, [] => [.unit lt]
  | .opened, u :: rest =>
    match browser.starts u with
    | some state => tokens (.markup state [lt, u]) rest
    | none =>
      .unit lt :: if u = lt then tokens .opened rest else .unit u :: tokens .data rest
  | .markup _ _, [] => []
  | .markup state source, u :: rest =>
    match browser.feed state u with
    | some next => tokens (.markup next (source ++ [u])) rest
    | none => .markup (source ++ [u]) :: tokens .data rest

def Browser.Reads (tag : Text) : Prop :=
  ∀ rest, tokens browser .data (tag ++ rest) = .markup tag :: tokens browser .data rest

/-- A text in which nothing begins. -/
def Browser.Plain : Text → Prop
  | [] => True
  | [_] => True
  | u :: v :: rest => (u = lt → browser.starts v = none) ∧ Plain (v :: rest)

inductive Node where
  | text (shown : Text)
  | markup (source : Text)
  deriving DecidableEq

def flush (decode : Text → Text) (pending : Text) : List Node :=
  if pending = [] then [] else [.text (decode pending)]

def nodesFrom (decode : Text → Text) (pending : Text) : List Token → List Node
  | [] => flush decode pending
  | .unit u :: rest => nodesFrom decode (pending ++ [u]) rest
  | .markup source :: rest => flush decode pending ++ .markup source :: nodesFrom decode [] rest

/-- What the browser makes of a source. -/
def Browser.document (source : Text) : List Node :=
  nodesFrom browser.decode [] (tokens browser .data source)

def escapeUnit (u : UInt16) : Text :=
  if u = amp then [0x26, 0x61, 0x6D, 0x70, 0x3B]
  else if u = lt then [0x26, 0x6C, 0x74, 0x3B]
  else if u = 0x3E then [0x26, 0x67, 0x74, 0x3B]
  else if u = 0x22 then [0x26, 0x71, 0x75, 0x6F, 0x74, 0x3B]
  else if u = 0x27 then [0x26, 0x23, 0x33, 0x39, 0x3B]
  else [u]

def escape (text : Text) : Text := text.flatMap escapeUnit

/-- A text without the units that a browser drops or replaces wherever they stand. -/
def Printable (text : Text) : Prop := ∀ u ∈ text, u ≠ 0 ∧ u ≠ 13

/-- A text that is shown as it is wherever it stands. -/
def Harmless (text : Text) : Prop := lt ∉ text ∧ amp ∉ text ∧ Printable text

instance (text : Text) : Decidable (Printable text) :=
  List.decidableBAll (fun u => u ≠ 0 ∧ u ≠ 13) text

instance (text : Text) : Decidable (Harmless text) :=
  inferInstanceAs (Decidable (_ ∧ _ ∧ _))

/-- How a browser reads text. -/
structure Browser.Standard : Prop where
  starts_lt : browser.starts lt = none
  decode_nil : browser.decode [] = []
  decode_amp : browser.decode [amp] = [amp]
  decode_unit : ∀ u rest, u ≠ amp → u ≠ 0 → u ≠ 13 →
    browser.decode (u :: rest) = u :: browser.decode rest
  decode_reference : ∀ u ∈ [amp, lt, 0x3E, 0x22, 0x27], ∀ rest,
    browser.decode (escapeUnit u ++ rest) = u :: browser.decode rest
  /-- No reference stands for more units than it is spelled with. -/
  length_decode : ∀ text, (browser.decode text).length ≤ text.length

inductive Part where
  | tag (source : Text)
  | fixed (text : Text)
  | escaped (text : Text)
  | raw (text : Text)
  deriving DecidableEq

def Part.source : Part → Text
  | tag source => source
  | fixed text => text
  | escaped text => escape text
  | raw text => text

def Part.meant : Part → List Token
  | tag source => [.markup source]
  | fixed text | escaped text | raw text => text.map .unit

def Guarded : List Part → Prop
  | [] => True
  | .raw _ :: rest => (∃ tag behind, rest = .tag tag :: behind) ∧ Guarded rest
  | _ :: rest => Guarded rest

def Part.Sound : Part → Prop
  | tag source => browser.Reads source
  | fixed text => Harmless text
  | escaped text => Printable text
  | raw _ => True

/-- A raw part that is shown as it is. -/
def Part.Inert : Part → Prop
  | raw text => browser.Plain text ∧ browser.decode text = text
  | _ => True

variable {browser}

theorem tokens_unit {u : UInt16} (other : u ≠ lt) (rest : Text) :
    tokens browser .data (u :: rest) = .unit u :: tokens browser .data rest := by
  rw [tokens, if_neg other]

theorem tokens_text {text : Text} (plain : lt ∉ text) (rest : Text) :
    tokens browser .data (text ++ rest) = text.map .unit ++ tokens browser .data rest := by
  induction text with
  | nil => rfl
  | cons u text ih =>
      rw [List.mem_cons, not_or] at plain
      rw [List.cons_append, tokens_unit (Ne.symm plain.1), ih plain.2]
      rfl

theorem tokens_lt (rest : Text) :
    tokens browser .data (lt :: rest) = tokens browser .opened rest := by
  rw [tokens, if_pos rfl]

theorem tokens_opened {u : UInt16} (nothing : browser.starts u = none) (rest : Text) :
    tokens browser .opened (u :: rest) = .unit lt :: tokens browser .data (u :: rest) := by
  simp only [tokens, nothing]

theorem tokens_markup {state : σ} {pending rest : Text} {token : Token} {more : List Token}
    (read : tokens browser (.markup state pending) rest = token :: more) :
    ∃ source, token = .markup source := by
  induction rest generalizing state pending with
  | nil => cases read
  | cons u rest ih =>
      simp only [tokens] at read
      split at read
      · exact ih read
      · cases read
        exact ⟨_, rfl⟩

theorem head_of_reads {tag : Text} (reads : browser.Reads tag) : ∃ rest, tag = lt :: rest := by
  have alone := reads []
  cases tag with
  | nil => cases alone
  | cons u rest =>
      by_cases same : u = lt
      · exact ⟨rest, by rw [same]⟩
      · rw [List.cons_append, tokens_unit same] at alone
        cases alone

theorem tokens_plain (standard : browser.starts lt = none) {text behind : Text}
    (plain : browser.Plain text) :
    tokens browser .data (text ++ lt :: behind) =
      text.map .unit ++ tokens browser .data (lt :: behind) := by
  induction text with
  | nil => rfl
  | cons u text ih =>
      have later : browser.Plain text := by
        cases text with
        | nil => trivial
        | cons v text => exact plain.2
      rw [List.map_cons, List.cons_append, List.cons_append, ← ih later]
      by_cases same : u = lt
      · subst same
        rw [tokens_lt]
        cases text with
        | nil => exact tokens_opened standard _
        | cons v text => exact tokens_opened (plain.1 rfl) _
      · exact tokens_unit same _

theorem lt_notMem_escape (text : Text) : lt ∉ escape text := by
  intro member
  rcases List.mem_flatMap.mp member with ⟨u, -, escaped⟩
  rw [escapeUnit] at escaped
  split_ifs at escaped with amp lt gt quot apos
  all_goals first
    | exact absurd escaped (by decide)
    | exact lt (List.mem_singleton.mp escaped).symm

theorem decode_escape (standard : browser.Standard) {text : Text} (printable : Printable text)
    (rest : Text) :
    browser.decode (escape text ++ rest) = text ++ browser.decode rest := by
  induction text with
  | nil => rfl
  | cons u text ih =>
      have later := ih fun v member => printable v (List.mem_cons_of_mem u member)
      rw [escape, List.flatMap_cons, List.append_assoc]
      by_cases special : u ∈ [amp, lt, 0x3E, 0x22, 0x27]
      · rw [standard.decode_reference u special, ← escape, later]
        rfl
      · simp only [List.mem_cons, List.not_mem_nil, or_false, not_or] at special
        have own := printable u List.mem_cons_self
        rw [escapeUnit, if_neg special.1, if_neg special.2.1, if_neg special.2.2.1,
          if_neg special.2.2.2.1, if_neg special.2.2.2.2, List.singleton_append,
          standard.decode_unit u _ special.1 own.1 own.2, ← escape, later]
        rfl

theorem decode_fixed (standard : browser.Standard) {text : Text} (fixed : amp ∉ text)
    (printable : Printable text) (rest : Text) :
    browser.decode (text ++ rest) = text ++ browser.decode rest := by
  induction text with
  | nil => rfl
  | cons u text ih =>
      rw [List.mem_cons, not_or] at fixed
      have own := printable u List.mem_cons_self
      rw [List.cons_append, standard.decode_unit u _ (Ne.symm fixed.1) own.1 own.2,
        ih fixed.2 fun v member => printable v (List.mem_cons_of_mem u member)]
      rfl

theorem nodesFrom_units (decode : Text → Text) (pending text : Text) (rest : List Token) :
    nodesFrom decode pending (text.map .unit ++ rest) =
      nodesFrom decode (pending ++ text) rest := by
  induction text generalizing pending with
  | nil => rw [List.append_nil]; rfl
  | cons u text ih =>
      rw [List.map_cons, List.cons_append, nodesFrom, ih, List.append_assoc]
      rfl

theorem plain_of_notMem {text : Text} (without : lt ∉ text) : browser.Plain text := by
  induction text with
  | nil => trivial
  | cons u text ih =>
      rw [List.mem_cons, not_or] at without
      cases text with
      | nil => trivial
      | cons v text => exact ⟨fun same => absurd same.symm without.1, ih without.2⟩

theorem inert_of_harmless (standard : browser.Standard) {text : Text} (harmless : Harmless text) :
    (Part.raw text).Inert browser := by
  refine ⟨plain_of_notMem harmless.1, ?_⟩
  have whole := decode_fixed standard harmless.2.1 harmless.2.2 []
  rwa [List.append_nil, standard.decode_nil, List.append_nil] at whole

theorem tokens_broken {text behind : Text}
    (broken : ¬ browser.Plain text) :
    ∃ (front : Text) (more : List Token), front.length < text.length ∧
      tokens browser .data (text ++ lt :: behind) = front.map .unit ++ more ∧
      ∀ token ∈ more.head?, ∃ source, token = .markup source := by
  induction text with
  | nil => exact absurd trivial broken
  | cons u text ih =>
      have further : ¬ browser.Plain text →
          tokens browser .data (u :: text ++ lt :: behind) =
            .unit u :: tokens browser .data (text ++ lt :: behind) →
          ∃ (front : Text) (more : List Token), front.length < (u :: text).length ∧
            tokens browser .data (u :: text ++ lt :: behind) = front.map .unit ++ more ∧
            ∀ token ∈ more.head?, ∃ source, token = .markup source := by
        intro later first
        rcases ih later with ⟨front, more, shorter, read, head⟩
        refine ⟨u :: front, more, Nat.succ_lt_succ shorter, ?_, head⟩
        rw [first, read]
        rfl
      cases text with
      | nil => exact absurd trivial broken
      | cons v text =>
          rw [Browser.Plain, not_and_or] at broken
          by_cases same : u = lt
          · subst same
            cases begins : browser.starts v with
            | none =>
                apply further
                · rcases broken with here | later
                  · exact absurd (fun _ => begins) here
                  · exact later
                · rw [List.cons_append, tokens_lt]
                  exact tokens_opened begins _
            | some state =>
                refine ⟨[], tokens browser .data (lt :: (v :: (text ++ lt :: behind))),
                  Nat.succ_pos _, rfl, fun token first => ?_⟩
                rcases List.head?_eq_some_iff.mp first with ⟨more, read⟩
                rw [tokens_lt] at read
                simp only [tokens, begins] at read
                exact tokens_markup read
          · apply further
            · rcases broken with here | later
              · exact absurd (fun wrong => absurd wrong same) here
              · exact later
            · exact tokens_unit same _

theorem nodesFrom_flush (decode : Text → Text) (pending : Text) {more : List Token}
    (head : ∀ token ∈ more.head?, ∃ source, token = .markup source) :
    nodesFrom decode pending more = flush decode pending ++ nodesFrom decode [] more := by
  cases more with
  | nil => exact (List.append_nil _).symm
  | cons token more =>
      rcases head token rfl with ⟨source, rfl⟩
      rfl

theorem nodesFrom_head (decode : Text → Text) {more : List Token}
    (head : ∀ token ∈ more.head?, ∃ source, token = .markup source) (shown : Text) :
    (nodesFrom decode [] more).head? ≠ some (.text shown) := by
  cases more with
  | nil => exact fun wrong => by cases wrong
  | cons token more =>
      rcases head token rfl with ⟨source, rfl⟩
      intro wrong
      cases wrong

theorem flush_some (decode : Text → Text) {pending : Text} (some : pending ≠ []) :
    flush decode pending = [.text (decode pending)] := if_neg some

theorem nodes_broken (standard : browser.Standard) {text behind pending shown : Text}
    {after : List Node} (broken : ¬ browser.Plain text)
    (carried : ∀ rest, browser.decode (pending ++ rest) = shown ++ browser.decode rest) :
    nodesFrom browser.decode pending (tokens browser .data (text ++ lt :: behind)) ≠
      flush id (shown ++ text) ++ after := by
  rcases @tokens_broken _ _ text behind broken with
    ⟨front, more, shorter, read, head⟩
  have some : shown ++ text ≠ [] := by
    intro none
    rw [List.append_eq_nil_iff] at none
    rw [none.2] at broken
    exact broken trivial
  rw [read, nodesFrom_units, nodesFrom_flush _ _ head, flush_some id some]
  intro same
  by_cases empty : pending ++ front = []
  · rw [flush, if_pos empty, List.nil_append] at same
    exact nodesFrom_head _ head _ (congrArg List.head? same)
  · rw [flush_some _ empty, List.singleton_append, List.singleton_append, List.cons.injEq,
      Node.text.injEq, carried, id, List.append_cancel_left_eq] at same
    have short := standard.length_decode front
    rw [same.1] at short
    omega

theorem flush_carried (standard : browser.Standard) {pending shown : Text}
    (carried : ∀ rest, browser.decode (pending ++ rest) = shown ++ browser.decode rest)
    (empty : pending = [] ↔ shown = []) : flush browser.decode pending = flush id shown := by
  have whole := carried []
  rw [List.append_nil, standard.decode_nil, List.append_nil] at whole
  by_cases none : pending = []
  · rw [flush, flush, if_pos none, if_pos (empty.mp none)]
  · rw [flush_some _ none, flush_some _ fun gone => none (empty.mpr gone), whole]
    rfl

theorem nodesFrom_tag (decode : Text → Text) (pending source : Text) (rest : List Token) :
    nodesFrom decode pending (.markup source :: rest) =
      flush decode pending ++ .markup source :: nodesFrom decode [] rest := rfl

theorem flush_append_iff {decode : Text → Text} {pending shown text : Text}
    {after after' : List Node} (nothing : decode [] = [])
    (carried : decode (pending ++ text) = shown ++ decode text)
    (empty : pending = [] ↔ shown = []) :
    flush decode (pending ++ text) ++ after = flush id (shown ++ text) ++ after' ↔
      decode text = text ∧ after = after' := by
  by_cases none : pending ++ text = []
  · rw [List.append_eq_nil_iff] at none
    rw [none.1, empty.mp none.1, none.2, nothing]
    exact (and_iff_right rfl).symm
  · have some : shown ++ text ≠ [] := by
      rw [ne_eq, List.append_eq_nil_iff, ← empty, ← List.append_eq_nil_iff]
      exact none
    rw [flush_some _ none, flush_some _ some, carried, List.singleton_append, List.singleton_append,
      List.cons.injEq, Node.text.injEq, id, List.append_cancel_left_eq]

theorem escape_eq_nil {text : Text} : escape text = [] ↔ text = [] := by
  cases text with
  | nil => exact Iff.rfl
  | cons u text =>
      refine iff_of_false (fun none => ?_) (List.cons_ne_nil _ _)
      rw [escape, List.flatMap_cons, List.append_eq_nil_iff, escapeUnit] at none
      split_ifs at none
      all_goals cases none.1

theorem nodes_raw (standard : browser.Standard) {text tag rest pending shown : Text}
    {after : List Node} (reads : browser.Reads tag)
    (carried : ∀ rest, browser.decode (pending ++ rest) = shown ++ browser.decode rest)
    (empty : pending = [] ↔ shown = []) :
    nodesFrom browser.decode pending (tokens browser .data (text ++ (tag ++ rest))) =
        flush id (shown ++ text) ++ .markup tag :: after ↔
      (Part.raw text).Inert browser ∧
        nodesFrom browser.decode [] (tokens browser .data rest) = after := by
  rcases head_of_reads reads with ⟨tail, rfl⟩
  by_cases plain : browser.Plain text
  · rw [List.cons_append, tokens_plain standard.starts_lt plain, nodesFrom_units,
      ← List.cons_append, reads, nodesFrom_tag,
      flush_append_iff standard.decode_nil (carried text) empty, List.cons.injEq]
    exact and_congr ⟨fun same => ⟨plain, same⟩, fun inert => inert.2⟩ (and_iff_right rfl)
  · refine iff_of_false (nodes_broken standard plain carried) fun inert => ?_
    exact plain inert.1.1

theorem nodes_parts (standard : browser.Standard) {parts : List Part} {pending shown : Text}
    (sound : ∀ part ∈ parts, part.Sound browser) (guarded : Guarded parts)
    (carried : ∀ rest, browser.decode (pending ++ rest) = shown ++ browser.decode rest)
    (empty : pending = [] ↔ shown = []) :
    nodesFrom browser.decode pending (tokens browser .data (parts.flatMap Part.source)) =
        nodesFrom id shown (parts.flatMap Part.meant) ↔
      ∀ part ∈ parts, part.Inert browser := by
  induction parts generalizing pending shown with
  | nil =>
      exact iff_of_true (flush_carried standard carried empty) fun part member => by cases member
  | cons part rest ih =>
      have own := sound part List.mem_cons_self
      have later := fun part member => sound part (List.mem_cons_of_mem _ member)
      rw [List.flatMap_cons, List.flatMap_cons, List.forall_mem_cons]
      cases part with
      | tag source =>
          rw [show (Part.tag source).source = source from rfl, own,
            show (Part.tag source).meant = [.markup source] from rfl, List.singleton_append,
            nodesFrom_tag, nodesFrom_tag, flush_carried standard carried empty,
            List.append_cancel_left_eq, List.cons.injEq, ih later guarded (fun _ => rfl) Iff.rfl]
          exact and_congr (iff_of_true rfl trivial) Iff.rfl
      | fixed text =>
          rw [show (Part.fixed text).source = text from rfl, tokens_text own.1,
            show (Part.fixed text).meant = text.map .unit from rfl, nodesFrom_units,
            nodesFrom_units, ih later guarded]
          · exact (true_and _).symm.to_iff
          · intro more
            rw [List.append_assoc, carried, decode_fixed standard own.2.1 own.2.2,
              List.append_assoc]
          · rw [List.append_eq_nil_iff, List.append_eq_nil_iff, empty]
      | escaped text =>
          rw [show (Part.escaped text).source = escape text from rfl,
            tokens_text (lt_notMem_escape text),
            show (Part.escaped text).meant = text.map .unit from rfl, nodesFrom_units,
            nodesFrom_units, ih later guarded]
          · exact (true_and _).symm.to_iff
          · intro more
            rw [List.append_assoc, carried, decode_escape standard own, List.append_assoc]
          · rw [List.append_eq_nil_iff, List.append_eq_nil_iff, empty, escape_eq_nil]
      | raw text =>
          rcases guarded with ⟨⟨tag, behind, rfl⟩, guarded⟩
          have reads : browser.Reads tag := later (.tag tag) List.mem_cons_self
          have following := @ih [] [] later guarded (fun _ => rfl) Iff.rfl
          rw [List.flatMap_cons, List.flatMap_cons] at following ⊢
          rw [show (Part.raw text).source = text from rfl,
            show (Part.raw text).meant = text.map .unit from rfl, nodesFrom_units]
          rw [show (Part.tag tag).source = tag from rfl,
            show (Part.tag tag).meant = [.markup tag] from rfl, List.singleton_append,
            nodesFrom_tag] at following ⊢
          rw [nodes_raw standard reads carried empty, ← following, reads, nodesFrom_tag]
          exact and_congr_right fun _ => (List.cons_inj_right _).symm

/-- The document that a source put together of parts is meant to be. -/
def meantBy (parts : List Part) : List Node := nodesFrom id [] (parts.flatMap Part.meant)

theorem document_parts_iff (standard : browser.Standard) {parts : List Part}
    (sound : ∀ part ∈ parts, part.Sound browser) (guarded : Guarded parts) :
    browser.document (parts.flatMap Part.source) = meantBy parts ↔
      ∀ part ∈ parts, part.Inert browser :=
  nodes_parts standard sound guarded (fun _ => rfl) Iff.rfl

end Tokenizer

end Foundation.Html
