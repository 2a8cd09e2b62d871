import Mathlib.Data.List.Basic

/-!
# Markup

A document is scanned into runs of text, of tags, and of quoted values in tags. What is escaped
ends no run of text or of a value, and is read back as it was. So a document that is pieced
together from markup and escaped inputs reads as the markup with the inputs put in as they are,
and its tags are those of the markup.
-/

namespace Relational.Markup

/-! ## Scanning -/

inductive Place where
  | text
  | tag
  /-- A value between double quotes. -/
  | value
deriving DecidableEq, Repr

/-- The place behind a character, if it ends the run that it is found in. -/
def Place.next : Place → Char → Option Place
  | .text, c => if c = '<' then some .tag else none
  | .tag, c => if c = '>' then some .text else if c = '"' then some .value else none
  | .value, c => if c = '"' then some .tag else none

structure Token where
  place : Place
  chars : List Char
deriving DecidableEq, Repr

/-- The tokens before the run that is being read. -/
structure Scan where
  tokens : List Token
  place : Place
  run : List Char
deriving DecidableEq, Repr

namespace Scan

def start : Scan := ⟨[], .text, []⟩

def step (scan : Scan) (c : Char) : Scan :=
  match scan.place.next c with
  | some place => ⟨scan.tokens ++ [⟨scan.place, scan.run⟩], place, []⟩
  | none => { scan with run := scan.run ++ [c] }

def read (scan : Scan) (chars : List Char) : Scan := chars.foldl step scan

/-- The last run ends with the document. -/
def close (scan : Scan) : List Token := scan.tokens ++ [⟨scan.place, scan.run⟩]

/-- Chars that belong to the run, whatever they are. -/
def add (scan : Scan) (chars : List Char) : Scan := { scan with run := scan.run ++ chars }

/-- What another scan has read, from the beginning of a run of text on. -/
def append (scan other : Scan) : Scan := { other with tokens := scan.tokens ++ other.tokens }

theorem read_append (scan : Scan) (first second : List Char) :
    scan.read (first ++ second) = (scan.read first).read second :=
  List.foldl_append

theorem read_cons (scan : Scan) (c : Char) (rest : List Char) :
    scan.read (c :: rest) = (scan.step c).read rest := rfl

/-- Characters of which none ends a run are added to it. -/
theorem read_of_next {scan : Scan} {chars : List Char}
    (hchars : ∀ c ∈ chars, scan.place.next c = none) : scan.read chars = scan.add chars := by
  induction chars generalizing scan with
  | nil => simp [read, add]
  | cons c rest ih =>
    have hstep : scan.step c = scan.add [c] := by
      rw [step, hchars c List.mem_cons_self]
      rfl
    have hrest : ∀ other ∈ rest, (scan.add [c]).place.next other = none :=
      fun other hother => hchars other (List.mem_cons_of_mem _ hother)
    rw [read_cons, hstep, ih hrest]
    simp [add]

/-- What stands before a run of text has no influence on how it is read. -/
theorem read_eq_append (tokens : List Token) (chars : List Char) :
    read ⟨tokens, .text, []⟩ chars = (⟨tokens, .text, []⟩ : Scan).append (start.read chars) := by
  have hshift : ∀ (scan : Scan) (chars : List Char), read { scan with
      tokens := tokens ++ scan.tokens } chars =
        { scan.read chars with tokens := tokens ++ (scan.read chars).tokens } := by
    intro scan chars
    induction chars generalizing scan with
    | nil => rfl
    | cons c rest ih =>
      rw [read_cons, read_cons, ← ih]
      congr 1
      simp only [step]
      cases scan.place.next c with
      | none => rfl
      | some place => simp only [List.append_assoc]
  have hstart := hshift start chars
  rw [start, List.append_nil] at hstart
  exact hstart

end Scan

def tokens (document : List Char) : List Token := (Scan.start.read document).close

/-! ## Escaping -/

/-- The references of the characters that mean something in markup. -/
def references : List (Char × List Char) :=
  [('&', "&amp;".toList), ('<', "&lt;".toList), ('>', "&gt;".toList), ('"', "&quot;".toList),
    ('\'', "&#x27;".toList)]

def escapeChar (c : Char) : List Char := (references.lookup c).getD [c]

/-- `html.escape` -/
def escape (text : List Char) : List Char := text.flatMap escapeChar

/-- The reference that a text begins with. -/
def reference? (text : List Char) : Option (Char × List Char) :=
  references.find? fun entry => entry.2.isPrefixOf text

/-- The characters after a reference that is read are skipped. -/
def unescapeFrom : Nat → List Char → List Char
  | _, [] => []
  | skip + 1, _ :: rest => unescapeFrom skip rest
  | 0, c :: rest =>
    match reference? (c :: rest) with
    | some entry => entry.1 :: unescapeFrom (entry.2.length - 1) rest
    | none => c :: unescapeFrom 0 rest

/-- `html.unescape`, of these references -/
def unescape (text : List Char) : List Char := unescapeFrom 0 text

theorem escapeChar_cases (c : Char) : (∃ entry ∈ references, entry.1 = c ∧ escapeChar c = entry.2) ∨
    c ≠ '&' ∧ c ≠ '<' ∧ c ≠ '"' ∧ escapeChar c = [c] := by
  cases hfound : references.lookup c with
  | some chars =>
    left
    obtain ⟨before, after, hsplit, -⟩ := List.lookup_eq_some_iff.mp hfound
    refine ⟨(c, chars), ?_, rfl, by rw [escapeChar, hfound, Option.getD_some]⟩
    rw [hsplit]
    exact List.mem_append_right _ List.mem_cons_self
  | none =>
    right
    have hne := List.lookup_eq_none_iff.mp hfound
    refine ⟨?_, ?_, ?_, by rw [escapeChar, hfound, Option.getD_none]⟩
    · simpa using hne ('&', "&amp;".toList) (by decide)
    · simpa using hne ('<', "&lt;".toList) (by decide)
    · simpa using hne ('"', "&quot;".toList) (by decide)

/-- No escaped text ends a run of text or of a value. -/
theorem next_escape {place : Place} (hplace : place ≠ .tag) (text : List Char) :
    ∀ c ∈ escape text, place.next c = none := by
  intro c hc
  obtain ⟨source, -, hsource⟩ := List.mem_flatMap.mp hc
  have hplain : c ≠ '<' ∧ c ≠ '"' := by
    rcases escapeChar_cases source with ⟨entry, hentry, -, hescaped⟩ | ⟨-, hlt, hquote, hescaped⟩
    · rw [hescaped] at hsource
      have hall : references.all fun entry => entry.2.all fun c => c ≠ '<' ∧ c ≠ '"' := by decide
      have hentries := List.all_eq_true.mp (List.all_eq_true.mp hall entry hentry) c hsource
      exact of_decide_eq_true hentries
    · rw [hescaped, List.mem_singleton] at hsource
      exact hsource ▸ ⟨hlt, hquote⟩
  cases place with
  | text => exact if_neg hplain.1
  | tag => exact absurd rfl hplace
  | value => exact if_neg hplain.2

theorem unescapeFrom_append_of_length (skipped rest : List Char) :
    unescapeFrom skipped.length (skipped ++ rest) = unescapeFrom 0 rest := by
  induction skipped with
  | nil => rfl
  | cons c skipped ih => exact ih

/-- No other character begins a reference. -/
theorem reference?_eq_none {c : Char} (hc : c ≠ '&') (rest : List Char) :
    reference? (c :: rest) = none := by
  have hfirst : ∀ entry ∈ references, entry.2.head? = some '&' := by decide
  rw [reference?, List.find?_eq_none]
  intro entry hentry hprefix
  obtain ⟨suffix, hsplit⟩ := List.isPrefixOf_iff_prefix.mp hprefix
  have hhead := hfirst entry hentry
  cases hchars : entry.2 with
  | nil =>
    rw [hchars] at hhead
    cases hhead
  | cons first chars =>
    rw [hchars] at hhead hsplit
    exact hc ((List.cons.inj hsplit).1.symm.trans (Option.some.inj hhead))

theorem unescape_cons {c : Char} (hc : c ≠ '&') (rest : List Char) :
    unescape (c :: rest) = c :: unescape rest := by
  rw [unescape, unescapeFrom, reference?_eq_none hc]
  rfl

/-- A reference is read as its character, for none begins another. -/
theorem unescape_reference {entry : Char × List Char} (hentry : entry ∈ references)
    (rest : List Char) : unescape (entry.2 ++ rest) = entry.1 :: unescape rest := by
  have hread : ∀ entry ∈ references, ∃ chars, entry.2 = '&' :: chars ∧
      reference? ('&' :: chars ++ rest) = some entry := by
    intro entry hentry
    simp only [references, List.mem_cons, List.not_mem_nil, or_false] at hentry
    rcases hentry with rfl | rfl | rfl | rfl | rfl <;> exact ⟨_, rfl, rfl⟩
  obtain ⟨chars, hchars, hreference⟩ := hread entry hentry
  rw [hchars, unescape, List.cons_append, unescapeFrom]
  rw [List.cons_append] at hreference
  simp only [hreference, hchars, List.length_cons, Nat.add_sub_cancel]
  exact congrArg _ (unescapeFrom_append_of_length chars rest)

/-- What was escaped is read back, and what stands behind it is not touched. -/
theorem unescape_escape_append (text rest : List Char) :
    unescape (escape text ++ rest) = text ++ unescape rest := by
  induction text with
  | nil => rfl
  | cons c text ih =>
    rw [escape, List.flatMap_cons, List.append_assoc, ← escape]
    rcases escapeChar_cases c with ⟨entry, hentry, rfl, hescaped⟩ | ⟨hamp, -, -, hescaped⟩
    · rw [hescaped, unescape_reference hentry, ih, List.cons_append]
    · rw [hescaped, List.singleton_append, unescape_cons hamp, ih, List.cons_append]

theorem unescape_append_of_notMem {chars : List Char} (hchars : '&' ∉ chars) (rest : List Char) :
    unescape (chars ++ rest) = chars ++ unescape rest := by
  induction chars with
  | nil => rfl
  | cons c chars ih =>
    rw [List.mem_cons, not_or] at hchars
    rw [List.cons_append, unescape_cons (Ne.symm hchars.1), ih hchars.2, List.cons_append]

/-! ## Documents in pieces -/

inductive Piece where
  | markup (chars : List Char)
  /-- Escaped, where it stands in a run of text or of a value. -/
  | input (text : List Char)
  /-- Markup that is given, and stands at the beginning of a run of text. -/
  | trusted (chars : List Char)

def Piece.render : Piece → List Char
  | .markup chars => chars
  | .input text => escape text
  | .trusted chars => chars

def render (pieces : List Piece) : List Char := pieces.flatMap Piece.render

def Token.unescaped (token : Token) : Token := { token with chars := unescape token.chars }

def Scan.unescaped (scan : Scan) : Scan :=
  ⟨scan.tokens.map Token.unescaped, scan.place, unescape scan.run⟩

/-- A document that ends in text, and not within a reference. -/
structure Closed (chars : List Char) : Prop where
  place : (Scan.start.read chars).place = .text
  run : ∀ rest, unescape ((Scan.start.read chars).run ++ rest) =
    unescape (Scan.start.read chars).run ++ unescape rest

/-- What reading a piece comes to: an input is added as it is. -/
def Scan.fill (scan : Scan) : Piece → Scan
  | .markup chars => scan.read chars
  | .input text => scan.add text
  | .trusted chars => scan.append (start.read chars).unescaped

/-- The place after some markup, and whether no character of a run is read. -/
def after (place : Place) (fresh : Bool) (chars : List Char) : Place × Bool :=
  chars.foldl (fun reached c =>
    match reached.1.next c with
    | some place => (place, true)
    | none => (reached.1, false)) (place, fresh)

/-- No input is in a tag, the markup has no references, and what is trusted is closed. -/
inductive Placed : Place → Bool → List Piece → Prop
  | nil {place : Place} {fresh : Bool} : Placed place fresh []
  | markup {place : Place} {fresh : Bool} {chars : List Char} (reached : Place × Bool)
      {rest : List Piece} (hamp : '&' ∉ chars) (hafter : after place fresh chars = reached)
      (hrest : Placed reached.1 reached.2 rest) : Placed place fresh (.markup chars :: rest)
  | input {place : Place} {fresh : Bool} {text : List Char} {rest : List Piece}
      (hplace : place ≠ .tag) (hrest : Placed place false rest) :
      Placed place fresh (.input text :: rest)
  | trusted {chars : List Char} {rest : List Piece} (hclosed : Closed chars)
      (hrest : Placed .text false rest) : Placed .text true (.trusted chars :: rest)

/-- Pieces that lead from text to text. -/
def Flows (pieces : List Piece) : Prop :=
  ∀ rest, (∀ fresh, Placed .text fresh rest) → ∀ fresh, Placed .text fresh (pieces ++ rest)

theorem flows_nil : Flows [] := fun _ hrest => hrest

theorem Flows.append {first second : List Piece} (hfirst : Flows first) (hsecond : Flows second) :
    Flows (first ++ second) := by
  intro rest hrest fresh
  rw [List.append_assoc]
  exact hfirst _ (hsecond rest hrest) fresh

theorem Flows.cons {piece : Piece} {rest : List Piece} (hpiece : Flows [piece])
    (hrest : Flows rest) : Flows (piece :: rest) :=
  hpiece.append hrest

theorem flows_input (text : List Char) : Flows [.input text] :=
  fun _ hrest _ => .input (by decide) (hrest false)

theorem after_fst (place : Place) (fresh other : Bool) (chars : List Char) :
    (after place fresh chars).1 = (after place other chars).1 := by
  cases chars <;> rfl

theorem flows_markup {chars : List Char} (hamp : '&' ∉ chars)
    (hafter : (after .text true chars).1 = .text) : Flows [.markup chars] := by
  intro rest hrest fresh
  refine .markup _ hamp rfl ?_
  rw [after_fst .text fresh true, hafter]
  exact hrest _

/-- Markup in two parts. -/
theorem flows_joined {first second : List Char} (hfirst : '&' ∉ first) (hsecond : '&' ∉ second)
    (hafter : (after .text true (first ++ second)).1 = .text) :
    Flows [.markup first, .markup second] := by
  intro rest hrest fresh
  refine .markup _ hfirst rfl (.markup _ hsecond rfl ?_)
  have hjoined : after (after .text fresh first).1 (after .text fresh first).2 second =
      after .text fresh (first ++ second) := List.foldl_append.symm
  rw [hjoined, after_fst .text fresh true, hafter]
  exact hrest _

/-- An input in a value of a tag. -/
theorem flows_value {before behind : List Char} (text : List Char) (hbefore : '&' ∉ before)
    (hopened : (after .text true before).1 = .value) (hafter : '&' ∉ behind)
    (hclosed : (after .value false behind).1 = .text) :
    Flows [.markup before, .input text, .markup behind] := by
  intro rest hrest fresh
  refine .markup _ hbefore rfl ?_
  rw [after_fst .text fresh true, hopened]
  refine .input (by decide) (.markup _ hafter rfl ?_)
  rw [hclosed]
  exact hrest _

/-- Characters that mean nothing in a text. -/
theorem flows_plain {chars : List Char} (hamp : '&' ∉ chars) (hlt : '<' ∉ chars) :
    Flows [.markup chars] := by
  apply flows_markup hamp
  have hplain : ∀ fresh, (after .text fresh chars).1 = .text := by
    clear hamp
    induction chars with
    | nil => exact fun _ => rfl
    | cons c rest ih =>
      intro fresh
      rw [List.mem_cons, not_or] at hlt
      have hnext : Place.text.next c = none := if_neg (Ne.symm hlt.1)
      rw [after, List.foldl_cons]
      simp only [hnext]
      exact ih hlt.2 false
  exact hplain true

/-- A scan of the document, and one of the pieces. -/
structure Reads (fresh : Bool) (scan filled : Scan) : Prop where
  place : filled.place = scan.place
  tokens : filled.tokens = scan.tokens.map Token.unescaped
  run : ∀ rest, unescape (scan.run ++ rest) = filled.run ++ unescape rest
  fresh : fresh = true → scan.run = [] ∧ filled.run = []

theorem Reads.unescape_run {fresh : Bool} {scan filled : Scan} (hreads : Reads fresh scan filled) :
    unescape scan.run = filled.run := by
  have hrun := hreads.run []
  rwa [List.append_nil, unescape, unescape, unescapeFrom, List.append_nil, ← unescape] at hrun

theorem place_read (scan : Scan) (fresh : Bool) (chars : List Char) :
    (scan.read chars).place = (after scan.place fresh chars).1 := by
  induction chars generalizing scan fresh with
  | nil => rfl
  | cons c rest ih =>
    rw [Scan.read_cons, after, List.foldl_cons, Scan.step]
    cases scan.place.next c <;> exact ih _ _

theorem Reads.markup {fresh : Bool} {scan filled : Scan} (hreads : Reads fresh scan filled)
    {chars : List Char} (hamp : '&' ∉ chars) :
    Reads (after scan.place fresh chars).2 (scan.read chars) (filled.read chars) := by
  induction chars generalizing fresh scan filled with
  | nil => exact hreads
  | cons c rest ih =>
    rw [List.mem_cons, not_or] at hamp
    rw [Scan.read_cons, Scan.read_cons, after, List.foldl_cons]
    cases hnext : scan.place.next c with
    | some place =>
      have hstep : Reads true (scan.step c) (filled.step c) := by
        simp only [Scan.step, hreads.place, hnext]
        refine ⟨rfl, ?_, fun _ => rfl, fun _ => ⟨rfl, rfl⟩⟩
        simp [hreads.tokens, Token.unescaped, hreads.unescape_run]
      have hrest := ih hstep hamp.2
      simp only [Scan.step, hnext] at hrest ⊢
      exact hrest
    | none =>
      have hstep : Reads false (scan.step c) (filled.step c) := by
        simp only [Scan.step, hreads.place, hnext]
        refine ⟨rfl, hreads.tokens, fun later => ?_, fun h => by cases h⟩
        simp only [List.append_assoc, hreads.run, List.singleton_append,
          unescape_cons (Ne.symm hamp.1)]
      have hrest := ih hstep hamp.2
      simp only [Scan.step, hnext] at hrest ⊢
      exact hrest

theorem Reads.read_render {place : Place} {fresh : Bool} {pieces : List Piece}
    (hplaced : Placed place fresh pieces) {scan filled : Scan} (hreads : Reads fresh scan filled)
    (hplace : scan.place = place) :
    ∃ last, Reads last (scan.read (render pieces)) (pieces.foldl Scan.fill filled) := by
  induction hplaced generalizing scan filled with
  | nil => exact ⟨_, hreads⟩
  | @markup place fresh chars reached rest hamp hafter _ ih =>
    rw [render, List.flatMap_cons, Scan.read_append]
    have hread := hreads.markup hamp
    have hreached := place_read scan fresh chars
    rw [hplace, hafter] at hread hreached
    exact ih hread hreached
  | @input place fresh text rest hinput _ ih =>
    have hescaped : scan.read (escape text) = scan.add (escape text) :=
      Scan.read_of_next (next_escape (hplace ▸ hinput) text)
    rw [render, List.flatMap_cons, Scan.read_append, Piece.render, hescaped]
    refine ih ⟨hreads.place, hreads.tokens, fun later => ?_, fun h => by cases h⟩ hplace
    simp only [Scan.fill, Scan.add, List.append_assoc, hreads.run, unescape_escape_append]
  | @trusted chars rest hclosed _ ih =>
    have hbegin : scan = ⟨scan.tokens, .text, []⟩ := by
      rw [← hplace, ← (hreads.fresh rfl).1]
    rw [render, List.flatMap_cons, Scan.read_append, Piece.render, hbegin, Scan.read_eq_append]
    refine ih ⟨rfl, ?_, hclosed.run, fun h => by cases h⟩ hclosed.place
    simp [Scan.fill, Scan.append, Scan.unescaped, hreads.tokens]

/-- A document in pieces reads as its markup, with the inputs put in as they are. -/
theorem tokens_render {pieces : List Piece} (hplaced : Placed .text true pieces) :
    (tokens (render pieces)).map Token.unescaped = (pieces.foldl Scan.fill .start).close := by
  have hstart : Reads true Scan.start Scan.start :=
    ⟨rfl, rfl, fun _ => rfl, fun _ => ⟨rfl, rfl⟩⟩
  obtain ⟨last, hreads⟩ := hstart.read_render hplaced rfl
  rw [tokens, Scan.close, List.map_append, Scan.close, hreads.tokens, ← hreads.unescape_run,
    hreads.place]
  rfl

/-! ## Outlines -/

/-- A token without what it says, unless it is of a tag. -/
def Token.outline (token : Token) : Token :=
  match token.place with
  | .tag => token
  | _ => ⟨token.place, []⟩

def Piece.isInput : Piece → Bool
  | .input _ => true
  | _ => false

/-- Two scans that differ in what texts and values say. -/
structure SameOutline (scan other : Scan) : Prop where
  place : other.place = scan.place
  tokens : other.tokens.map Token.outline = scan.tokens.map Token.outline
  run : scan.place = .tag → other.run = scan.run

theorem SameOutline.close {scan other : Scan} (hsame : SameOutline scan other) :
    other.close.map Token.outline = scan.close.map Token.outline := by
  have hlast : Token.outline ⟨other.place, other.run⟩ = Token.outline ⟨scan.place, scan.run⟩ := by
    rw [hsame.place]
    cases hplace : scan.place with
    | tag => rw [hsame.run hplace]
    | text | value => rfl
  rw [Scan.close, Scan.close, List.map_append, List.map_append, hsame.tokens, List.map_singleton,
    List.map_singleton, hlast]

theorem SameOutline.read {scan other : Scan} (hsame : SameOutline scan other)
    (chars : List Char) : SameOutline (scan.read chars) (other.read chars) := by
  induction chars generalizing scan other with
  | nil => exact hsame
  | cons c rest ih =>
    apply ih
    simp only [Scan.step, hsame.place]
    cases hnext : scan.place.next c with
    | some place =>
      refine ⟨rfl, ?_, fun _ => rfl⟩
      have hclose := hsame.close
      rw [Scan.close, Scan.close, hsame.place] at hclose
      exact hclose
    | none =>
      exact ⟨rfl, hsame.tokens, fun hplace => congrArg (· ++ [c]) (hsame.run hplace)⟩

/-- The outline is that of the pieces that are no inputs. -/
theorem SameOutline.fill {place : Place} {fresh : Bool} {pieces : List Piece}
    (hplaced : Placed place fresh pieces) {scan other : Scan} (hsame : SameOutline scan other)
    (hplace : scan.place = place) :
    SameOutline ((pieces.filter (!·.isInput)).foldl Scan.fill scan)
      (pieces.foldl Scan.fill other) := by
  induction hplaced generalizing scan other with
  | nil => exact hsame
  | @markup place fresh chars reached rest hamp hafter _ ih =>
    have hreached := place_read scan fresh chars
    rw [hplace, hafter] at hreached
    exact ih (hsame.read chars) hreached
  | @input place fresh text rest hinput _ ih =>
    refine ih ⟨hsame.place, hsame.tokens, fun htag => ?_⟩ hplace
    exact absurd (hplace ▸ htag) hinput
  | @trusted chars rest hclosed _ ih =>
    refine ih ⟨rfl, ?_, fun _ => rfl⟩ hclosed.place
    simp only [Scan.fill, Scan.append, List.map_append, hsame.tokens]

end Relational.Markup
