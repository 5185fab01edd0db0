import KeyCustody.Aws.Inventory
import KeyCustody.Google.Inventory
import KeyCustody.Proofs.Files
import KeyCustody.Proofs.Normalization
import KeyCustody.Proofs.PublicPoint

/-!
Layouts of base64 text. However a text is cut into lines, with or without delimiters and with any
blanks around the whole, its one-line form is the text itself.
-/
namespace KeyCustody.PublicKey

open Text

section Steps
variable {before after : List Char}

theorem trimStart_of_blank (blank : ∀ c ∈ after, isBlank c = true) : trimStart after = [] := by
  have dropped := trimStart_append_of_blank blank []
  rwa [List.append_nil] at dropped

theorem trim_append_of_blank (blank : ∀ c ∈ after, isBlank c = true) (s : List Char) :
    trim (s ++ after) = trim s := by
  unfold trim
  by_cases empty : trimStart s = []
  · have rest : trimStart (s ++ after) = trimStart after := by
      rw [trimStart, List.dropWhile_append, ← trimStart, empty]
      rfl
    rw [rest, trimStart_of_blank blank, empty]
  · have kept : trimStart (s ++ after) = trimStart s ++ after := by
      rw [trimStart, List.dropWhile_append, ← trimStart, List.isEmpty_eq_false_iff.mpr empty]
      rfl
    rw [kept, trimEnd_append_of_blank blank]

theorem trim_between (blankBefore : ∀ c ∈ before, isBlank c = true)
    (blankAfter : ∀ c ∈ after, isBlank c = true) (s : List Char) :
    trim (before ++ (s ++ after)) = trim s := by
  rw [trim, trimStart_append_of_blank blankBefore, ← trim, trim_append_of_blank blankAfter]

theorem trim_solid_ends {first last : Char} (solid : isBlank first = false)
    (solidLast : isBlank last = false) (s : List Char) :
    trim (first :: (s ++ [last])) = first :: (s ++ [last]) := by
  rw [trim, trimStart, List.dropWhile_cons_of_neg (by simp [solid]), trimEnd, ← List.cons_append,
    List.reverse_append, List.reverse_singleton, List.singleton_append,
    List.dropWhile_cons_of_neg (by simp [solidLast]), List.reverse_cons, List.reverse_reverse]

theorem trim_delimited (rows : List Char) :
    trim (pemBegin ++ (rows ++ pemEnd)) = pemBegin ++ (rows ++ pemEnd) := by
  have form : pemBegin ++ (rows ++ pemEnd) =
      '-' :: ((pemBegin.tail ++ (rows ++ pemEnd.dropLast)) ++ ['-']) := by
    have begins : '-' :: pemBegin.tail = pemBegin := by decide
    have ends : pemEnd.dropLast ++ ['-'] = pemEnd := by decide
    rw [List.append_assoc, List.append_assoc, ends, ← List.cons_append, begins]
  rw [form, trim_solid_ends (by decide) (by decide)]

theorem dropMark_append (mark s : List Char) : dropMark mark (mark ++ s) = s := by
  rw [dropMark, if_pos (List.isPrefixOf_iff_prefix.mpr (List.prefix_append mark s)),
    List.drop_left]

theorem dropEndMark_append (mark s : List Char) : dropEndMark mark (s ++ mark) = s := by
  rw [dropEndMark, if_pos (List.isSuffixOf_iff_suffix.mpr (List.suffix_append s mark)),
    List.length_append, Nat.add_sub_cancel, List.take_left]

theorem filter_dropWhile (s : List Char) :
    (s.dropWhile isBlank).filter (!isBlank ·) = s.filter (!isBlank ·) := by
  induction s with
  | nil => rfl
  | cons c rest ih =>
    cases blank : isBlank c with
    | true => rw [List.dropWhile_cons_of_pos blank, ih, List.filter_cons_of_neg (by simp [blank])]
    | false => rw [List.dropWhile_cons_of_neg (by simp [blank])]

/-- Blanks at the ends are all that trimming takes away. -/
theorem filter_trim (s : List Char) : (trim s).filter (!isBlank ·) = s.filter (!isBlank ·) := by
  rw [trim, trimEnd, List.filter_reverse, filter_dropWhile, ← List.filter_reverse,
    List.reverse_reverse, trimStart, filter_dropWhile]

end Steps

section Layouts

def isBase64 (c : Char) : Bool :=
  ('A' ≤ c && c ≤ 'Z') || ('a' ≤ c && c ≤ 'z') || ('0' ≤ c && c ≤ '9') ||
    c == '+' || c == '/' || c == '='

inductive LineEnd where
  | lf
  | cr
  | crlf

def LineEnd.chars : LineEnd → List Char
  | .lf => ['\n']
  | .cr => ['\r']
  | .crlf => ['\r', '\n']

structure Line where
  text : List Char
  ended : LineEnd

def Line.chars (line : Line) : List Char :=
  line.text ++ line.ended.chars

/-- A way to cut a text into lines, and blanks around the whole. What follows the last end of a line
is not ended. -/
structure Layout (b : String) where
  before : List Char
  lines : List Line
  last : List Char
  after : List Char
  blankBefore : ∀ c ∈ before, isBlank c = true
  blankAfter : ∀ c ∈ after, isBlank c = true
  whole : lines.flatMap Line.text ++ last = b.toList

namespace Layout
variable {b : String} (layout : Layout b)

def rows : List Char :=
  layout.lines.flatMap Line.chars ++ layout.last

def bare : String :=
  String.ofList (layout.before ++ (layout.rows ++ layout.after))

/-- The lines between the delimiters. Line breaks may follow the first of these. -/
def pem (breaks : List LineEnd) : String :=
  String.ofList (layout.before ++
    ((pemBegin ++ (breaks.flatMap LineEnd.chars ++ layout.rows ++ pemEnd)) ++ layout.after))

end Layout

theorem breaks_ended (ended : LineEnd) : ∀ c ∈ ended.chars, isLineBreak c = true := by
  cases ended <;> exact List.all_eq_true.mp rfl

theorem filter_ended (ended : LineEnd) : ended.chars.filter (!isLineBreak ·) = [] := by
  cases ended <;> rfl

theorem unblank_of_base64 {c : Char} (base64 : isBase64 c = true) : isBlank c = false := by
  have codes : ((0x41 ≤ c.toNat ∧ c.toNat ≤ 0x5a) ∨ (0x61 ≤ c.toNat ∧ c.toNat ≤ 0x7a) ∨
      (0x30 ≤ c.toNat ∧ c.toNat ≤ 0x39)) ∨ c = '+' ∨ c = '/' ∨ c = '=' := by
    simpa [isBase64, Char.le_def, UInt32.le_iff_toNat_le, or_assoc] using base64
  rcases codes with letter | rfl | rfl | rfl
  · simp only [isBlank, blankRanges, List.any_cons, List.any_nil, Bool.or_eq_false_iff,
      Bool.and_eq_false_iff, decide_eq_false_iff_not, and_true]
    omega
  all_goals decide

theorem noHyphen_of_base64 {c : Char} (base64 : isBase64 c = true) : c ≠ '-' := by
  rintro rfl
  revert base64
  decide

theorem filter_base64 {cs : List Char} (base64 : ∀ c ∈ cs, isBase64 c = true) :
    cs.filter (!isLineBreak ·) = cs := by
  rw [List.filter_eq_self]
  intro c member
  rw [unbroken_of_unblank (unblank_of_base64 (base64 c member))]
  rfl

variable {b : String} (base64 : ∀ c ∈ b.toList, isBase64 c = true) (layout : Layout b)
include base64

theorem Layout.base64_line {line : Line} (among : line ∈ layout.lines) :
    ∀ c ∈ line.text, isBase64 c = true := by
  intro c member
  apply base64 c
  rw [← layout.whole]
  exact List.mem_append_left _ (List.mem_flatMap_of_mem among member)

theorem Layout.base64_last : ∀ c ∈ layout.last, isBase64 c = true := by
  intro c member
  apply base64 c
  rw [← layout.whole]
  exact List.mem_append_right _ member

/-- In the lines of base64 the only blanks are the line breaks, and there is no hyphen. -/
theorem Layout.rows_plain : ∀ c ∈ layout.rows, isBlank c = isLineBreak c ∧ c ≠ '-' := by
  have plain {c : Char} (letter : isBase64 c = true) : isBlank c = isLineBreak c ∧ c ≠ '-' := by
    rw [unblank_of_base64 letter, unbroken_of_unblank (unblank_of_base64 letter)]
    exact ⟨rfl, noHyphen_of_base64 letter⟩
  intro c member
  rcases List.mem_append.mp member with inLine | inLast
  · obtain ⟨line, among, inLine⟩ := List.mem_flatMap.mp inLine
    rcases List.mem_append.mp inLine with inText | inEnd
    · exact plain (layout.base64_line base64 among c inText)
    · have breaks := breaks_ended line.ended c inEnd
      rw [breaks, isBlank_of_break breaks]
      refine ⟨rfl, ?_⟩
      rintro rfl
      cases breaks
  · exact plain (layout.base64_last base64 c inLast)

theorem Layout.filter_rows : layout.rows.filter (!isLineBreak ·) = b.toList := by
  have line (line : Line) (among : line ∈ layout.lines) :
      line.chars.filter (!isLineBreak ·) = line.text := by
    rw [Line.chars, List.filter_append, filter_base64 (layout.base64_line base64 among),
      filter_ended, List.append_nil]
  rw [rows, List.filter_append, List.filter_flatMap, List.flatMap_congr line,
    filter_base64 (layout.base64_last base64), layout.whole]

theorem normalizeString_bare : normalizeString layout.bare = b := by
  have plain := layout.rows_plain base64
  have noHyphen : ∀ c ∈ trim layout.rows, c ≠ '-' :=
    fun c member => (plain c ((trim_sublist layout.rows).subset member)).2
  have noBegin : ¬ pemBegin <+: trim layout.rows :=
    fun front => noHyphen '-' (front.subset (by decide)) rfl
  have noEnd : ¬ pemEnd <:+ trim layout.rows :=
    fun back => noHyphen '-' (back.subset (by decide)) rfl
  -- Trimming may take line breaks off the lines, which the filter would take anyway.
  have filtered : (trim layout.rows).filter (!isLineBreak ·) = b.toList := by
    have same {cs : List Char} (among : ∀ c ∈ cs, c ∈ layout.rows) :
        cs.filter (!isLineBreak ·) = cs.filter (!isBlank ·) :=
      List.filter_congr fun c member => by rw [(plain c (among c member)).1]
    rw [same (trim_sublist layout.rows).subset, filter_trim, ← same fun _ member => member,
      layout.filter_rows base64]
  rw [normalizeString, Layout.bare, String.toList_ofList, normalize,
    trim_between layout.blankBefore layout.blankAfter,
    (dropMark_eq_self_iff (by decide) _).mpr noBegin,
    (dropEndMark_eq_self_iff (by decide) _).mpr noEnd, filtered, String.ofList_toList]

theorem normalizeString_pem (breaks : List LineEnd) : normalizeString (layout.pem breaks) = b := by
  have none : breaks.flatMap (fun ended => ended.chars.filter (!isLineBreak ·)) = [] :=
    List.flatMap_eq_nil_iff.mpr fun ended _ => filter_ended ended
  rw [normalizeString, Layout.pem, String.toList_ofList, normalize,
    trim_between layout.blankBefore layout.blankAfter, trim_delimited, dropMark_append,
    dropEndMark_append, List.filter_append, List.filter_flatMap, none, layout.filter_rows base64,
    List.nil_append, String.ofList_toList]

end Layouts

end PublicKey

section Attached

def told (text : String) : Except Failure (Option String × Option String) :=
  match PublicKey.pointHex text with
  | .ok point => .ok (some text, some point)
  | .error fault => .error (.publicKey fault)

variable {b raw : String} (normal : PublicKey.normalizeString raw = b)
include normal

theorem publish_told (before : Option String) :
    (publish true raw).map (fun published => (some published.text, published.point.or before)) =
      told b := by
  subst normal
  unfold told
  cases found : PublicKey.pointHex (PublicKey.normalizeString raw) with
  | error fault =>
    rw [publish_point_error raw found]
    rfl
  | ok point =>
    rw [publish_point_ok raw found]
    rfl

theorem attached_google {files : Files} {exports : Google.Exports} {r : Google.KeyRecord}
    {path : String} (named : exports.path? r.name = some path)
    (read : files.readText path = .ok raw) :
    (Google.attachKey files false exports r).map (·.publicKey) = .ok (some b) ∧
    (Google.attachKey files true exports r).map (fun r => (r.publicKey, r.point)) = told b := by
  rw [← publish_told normal r.point, ← normal]
  simp only [Google.attachKey, named, read]
  refine ⟨rfl, ?_⟩
  cases publish true raw <;> rfl

theorem attached_aws {keys : List Aws.FetchedKey} {arn : String} {key : Aws.FetchedKey}
    (named : Aws.keyNamed? keys arn = some key) (said : key.publicKey = raw) (a : Aws.Alias) :
    (Aws.attachKey false keys arn a).map (·.publicKey) = .ok (some b) ∧
    (Aws.attachKey true keys arn a).map (fun a => (a.publicKey, a.point)) = told b := by
  rw [← publish_told normal a.point, ← normal]
  simp only [Aws.attachKey, named, said]
  refine ⟨rfl, ?_⟩
  cases publish true raw <;> rfl

end Attached

/-- Base64 comes back from every layout, with delimiters and without. So a key that one provider
has in a PEM file and the other in a bare reply gets one text from both, and one point or one
refusal. -/
theorem layouts_attached_alike (b : String) (base64 : ∀ c ∈ b.toList, PublicKey.isBase64 c = true)
    (layout other : PublicKey.Layout b) (breaks : List PublicKey.LineEnd) :
    PublicKey.normalizeString (layout.pem breaks) = b ∧
    PublicKey.normalizeString other.bare = b ∧
    ∀ (files : Files) (exports : Google.Exports) (r : Google.KeyRecord) (path : String)
      (keys : List Aws.FetchedKey) (arn : String) (key : Aws.FetchedKey) (a : Aws.Alias),
      exports.path? r.name = some path → files.readText path = .ok (layout.pem breaks) →
      Aws.keyNamed? keys arn = some key → key.publicKey = other.bare →
      ((Google.attachKey files false exports r).map (·.publicKey) = .ok (some b) ∧
        (Aws.attachKey false keys arn a).map (·.publicKey) = .ok (some b)) ∧
      (Google.attachKey files true exports r).map (fun r => (r.publicKey, r.point)) = told b ∧
      (Aws.attachKey true keys arn a).map (fun a => (a.publicKey, a.point)) = told b := by
  have pem := PublicKey.normalizeString_pem base64 layout breaks
  have bare := PublicKey.normalizeString_bare base64 other
  refine ⟨pem, bare, ?_⟩
  intro files exports r path keys arn key a exported read fetched said
  obtain ⟨googleText, googlePoint⟩ := attached_google pem exported read
  obtain ⟨awsText, awsPoint⟩ := attached_aws bare fetched said a
  exact ⟨⟨googleText, awsText⟩, googlePoint, awsPoint⟩

section OneKey

def wrappedKey : PublicKey.Layout "MFYw" where
  before := [' ', Char.ofNat 0x3000]
  lines := [⟨['M', 'F'], .crlf⟩, ⟨[], .cr⟩, ⟨['Y', 'w'], .lf⟩]
  last := []
  after := ['\n', '\t']
  blankBefore := List.all_eq_true.mp rfl
  blankAfter := List.all_eq_true.mp rfl
  whole := by decide

def unwrappedKey : PublicKey.Layout "MFYw" where
  before := []
  lines := []
  last := ['M', 'F', 'Y', 'w']
  after := []
  blankBefore := List.all_eq_true.mp rfl
  blankAfter := List.all_eq_true.mp rfl
  whole := by decide

def keyFile : Files :=
  Files.empty.put ["tmp", "work", "k.pem"] (.file (Text.encode (wrappedKey.pem [.lf])))

def keyReply : Aws.FetchedKey :=
  { id := "arn", publicKey := "MFYw", usage := "SIGN_VERIFY" }

theorem layouts_attached_alike_wrapped :
    (∀ c ∈ "MFYw".toList, PublicKey.isBase64 c = true) ∧
    PublicKey.normalizeString (wrappedKey.pem [.lf]) = "MFYw" ∧
    keyFile.readText "k.pem" = .ok (wrappedKey.pem [.lf]) ∧
    (Google.attachKey keyFile true [("k", "k.pem")] { createTime := "", name := "k" }).map
        (fun r => (r.publicKey, r.point)) =
      (Aws.attachKey true [keyReply] "arn" { name := "a", target := "k" }).map
        fun a => (a.publicKey, a.point) := by
  have base64 : ∀ c ∈ "MFYw".toList, PublicKey.isBase64 c = true :=
    List.all_eq_true.mp rfl
  have read : keyFile.readText "k.pem" = .ok (wrappedKey.pem [.lf]) :=
    Files.readText_encode _ rfl
  obtain ⟨pem, -, attached⟩ :=
    layouts_attached_alike "MFYw" base64 wrappedKey unwrappedKey [.lf]
  obtain ⟨-, google, aws⟩ := attached keyFile [("k", "k.pem")] { createTime := "", name := "k" }
    "k.pem" [keyReply] "arn" keyReply { name := "a", target := "k" } rfl read rfl (by decide)
  exact ⟨base64, pem, read, google.trans aws.symm⟩

end OneKey

end KeyCustody
