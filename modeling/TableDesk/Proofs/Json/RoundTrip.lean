import TableDesk.Json.Reader
import TableDesk.Proofs.Json.Literal

/-!
A value that is written over several lines is read back as itself. The layout of a value is read as the row of its
tokens, and the row of tokens as the value.
-/

namespace TableDesk.Json

mutual

def Value.tokens : Value → List Token
  | .null => [.null]
  | .bool b => [.bool b]
  | .number spelling => [.number spelling]
  | .string text => [.string text]
  | .array items => .openBracket :: (itemTokens items ++ [.closeBracket])
  | .object members => .openBrace :: (memberTokens members ++ [.closeBrace])

def itemTokens : List Value → List Token
  | [] => []
  | [v] => v.tokens
  | v :: rest => v.tokens ++ .comma :: itemTokens rest

def memberTokens : List (Text × Value) → List Token
  | [] => []
  | [(key, v)] => .string key :: .colon :: v.tokens
  | (key, v) :: rest => .string key :: .colon :: (v.tokens ++ .comma :: memberTokens rest)

end

/-- A value whose numbers are all spelled as numbers. -/
inductive Value.Spelled : Value → Prop
  | null : Spelled .null
  | bool (b : Bool) : Spelled (.bool b)
  | number {spelling : String} (h : isNumber spelling.toList = true) : Spelled (.number spelling)
  | string (text : Text) : Spelled (.string text)
  | array (items : List Value) (h : ∀ v ∈ items, Spelled v) : Spelled (.array items)
  | object (members : List (Text × Value)) (h : ∀ m ∈ members, Spelled m.2) : Spelled (.object members)

/-! ### From tokens to the value -/

/-- Wherever a value is expected, its tokens are read as the value. -/
def Value.Read (v : Value) : Prop :=
  ∀ stack, v.tokens.foldlM Reader.step ⟨stack, .value⟩ = some ⟨stack, .complete v⟩

theorem foldlM_items {items : List Value} (h : ∀ v ∈ items, v.Read) (hne : items ≠ []) (done : List Value)
    (stack : List Frame) :
    (itemTokens items ++ [Token.closeBracket]).foldlM Reader.step ⟨.array done :: stack, .value⟩ =
      some ⟨stack, .complete (.array (done.reverse ++ items))⟩ := by
  induction items generalizing done with
  | nil => exact absurd rfl hne
  | cons v rest ih =>
    have hv := h v List.mem_cons_self (.array done :: stack)
    cases rest with
    | nil =>
      rw [itemTokens, foldlM_append_of_eq_some hv]
      simp [Reader.step]
    | cons w rest =>
      have htokens : itemTokens (v :: w :: rest) = v.tokens ++ Token.comma :: itemTokens (w :: rest) := rfl
      rw [htokens, List.append_assoc, foldlM_append_of_eq_some hv]
      simpa [Reader.step] using ih (fun w hw => h w (List.mem_cons_of_mem _ hw)) (by simp) (v :: done)

theorem foldlM_members {members : List (Text × Value)} (h : ∀ m ∈ members, m.2.Read) (hne : members ≠ [])
    (done : List (Text × Value)) (stack : List Frame) :
    (memberTokens members ++ [Token.closeBrace]).foldlM Reader.step ⟨stack, .nextKey done⟩ =
      some ⟨stack, .complete (.object (done.reverse ++ members))⟩ := by
  induction members generalizing done with
  | nil => exact absurd rfl hne
  | cons m rest ih =>
    obtain ⟨key, v⟩ := m
    have hv := h (key, v) List.mem_cons_self (.object done key :: stack)
    have hkey : [Token.string key, Token.colon].foldlM Reader.step ⟨stack, .nextKey done⟩ =
        some ⟨.object done key :: stack, .value⟩ := rfl
    cases rest with
    | nil =>
      have htokens : memberTokens [(key, v)] = [Token.string key, Token.colon] ++ v.tokens := rfl
      rw [htokens, List.append_assoc, foldlM_append_of_eq_some hkey, foldlM_append_of_eq_some hv]
      simp [Reader.step]
    | cons m rest =>
      have htokens : memberTokens ((key, v) :: m :: rest) =
          [Token.string key, Token.colon] ++ (v.tokens ++ Token.comma :: memberTokens (m :: rest)) := rfl
      rw [htokens, List.append_assoc, List.append_assoc, foldlM_append_of_eq_some hkey, foldlM_append_of_eq_some hv]
      simpa [Reader.step] using ih (fun m hm => h m (List.mem_cons_of_mem _ hm)) (by simp) ((key, v) :: done)

/-- No value begins with the end of an array. -/
theorem foldlM_tokens_firstItem (v : Value) (rest : List Token) (stack : List Frame) :
    (v.tokens ++ rest).foldlM Reader.step ⟨stack, .firstItem⟩ =
      (v.tokens ++ rest).foldlM Reader.step ⟨.array [] :: stack, .value⟩ := by
  cases v <;> rfl

/-- No array of items begins with its end. -/
theorem foldlM_itemTokens_firstItem {items : List Value} (hne : items ≠ []) (rest : List Token)
    (stack : List Frame) :
    (itemTokens items ++ rest).foldlM Reader.step ⟨stack, .firstItem⟩ =
      (itemTokens items ++ rest).foldlM Reader.step ⟨.array [] :: stack, .value⟩ := by
  cases items with
  | nil => exact absurd rfl hne
  | cons v more =>
    cases more with
    | nil => exact foldlM_tokens_firstItem v rest stack
    | cons w more =>
      have htokens : itemTokens (v :: w :: more) = v.tokens ++ Token.comma :: itemTokens (w :: more) := rfl
      rw [htokens, List.append_assoc]
      exact foldlM_tokens_firstItem v _ stack

/-- At the start of an object and after a comma in it, a member is read in the same way. -/
theorem foldlM_memberTokens_firstKey {members : List (Text × Value)} (hne : members ≠ []) (rest : List Token)
    (stack : List Frame) :
    (memberTokens members ++ rest).foldlM Reader.step ⟨stack, .firstKey []⟩ =
      (memberTokens members ++ rest).foldlM Reader.step ⟨stack, .nextKey []⟩ := by
  cases members with
  | nil => exact absurd rfl hne
  | cons m more => cases more <;> rfl

theorem Value.Read.array {items : List Value} (h : ∀ v ∈ items, v.Read) : (Value.array items).Read := by
  intro stack
  by_cases hne : items = []
  · subst hne
    rfl
  · have hopen : Reader.step ⟨stack, .value⟩ .openBracket = some ⟨stack, .firstItem⟩ := rfl
    rw [Value.tokens, List.foldlM_cons, hopen]
    exact (foldlM_itemTokens_firstItem hne _ stack).trans (foldlM_items h hne [] stack)

theorem Value.Read.object {members : List (Text × Value)} (h : ∀ m ∈ members, m.2.Read) :
    (Value.object members).Read := by
  intro stack
  by_cases hne : members = []
  · subst hne
    rfl
  · have hopen : Reader.step ⟨stack, .value⟩ .openBrace = some ⟨stack, .firstKey []⟩ := rfl
    rw [Value.tokens, List.foldlM_cons, hopen]
    exact (foldlM_memberTokens_firstKey hne _ stack).trans (foldlM_members h hne [] stack)

/-- The tokens of a value are read as the value. -/
theorem Value.Spelled.read {v : Value} (h : v.Spelled) : v.Read := by
  induction h with
  | null | bool | number | string => exact fun stack => rfl
  | array items _ ih => exact .array ih
  | object members _ ih => exact .object ih

/-! ### From characters to tokens -/

/-- The characters that may follow a value. -/
def delimiters : List Char := [',', ']', '\x7d', '\n']

/-- A reader of characters that has read the given tokens, the last one perhaps up to its end only. -/
structure Scanner.Settled (s : Scanner) (tokens : List Token) : Prop where
  leave : s.leave = some tokens
  step : ∀ c ∈ delimiters, s.step c = Scanner.enter tokens c

theorem Scanner.settled_between (tokens : List Token) : Scanner.Settled ⟨tokens, .between⟩ tokens := ⟨rfl, fun _ _ => rfl⟩

theorem Scanner.settled_word {letters : List Char} {token : Token} (h : wordToken letters = some token)
    (tokens : List Token) : Scanner.Settled ⟨tokens, .word letters⟩ (token :: tokens) := by
  have hleave : Scanner.leave ⟨tokens, .word letters⟩ = some (token :: tokens) := by simp [Scanner.leave, h]
  refine ⟨hleave, fun c hc => ?_⟩
  have hall : delimiters.all (!·.isLower) = true := rfl
  have hlower : c.isLower = false := by simpa using List.all_eq_true.1 hall c hc
  simp only [Scanner.step, hlower, hleave]
  rfl

theorem Scanner.settled_number {spelling : List Char} {digits : Digits} (h : digits.complete = true)
    (tokens : List Token) :
    Scanner.Settled ⟨tokens, .number spelling digits⟩ (.number (String.ofList spelling) :: tokens) := by
  have hleave : Scanner.leave ⟨tokens, .number spelling digits⟩ = some (.number (String.ofList spelling) :: tokens) :=
    if_pos h
  refine ⟨hleave, fun c hc => ?_⟩
  have hend : digits.next c = none := by
    have hall : delimiters.all (digits.next · == none) = true := by
      cases digits with
      | zero | whole | fraction | power => rfl
      | sign | point | exponent | exponentSign => cases h
    simpa using List.all_eq_true.1 hall c hc
  simp only [Scanner.step, hend, hleave]
  rfl

theorem foldlM_spaces (n : Nat) (tokens : List Token) :
    (List.replicate n ' ').foldlM Scanner.step ⟨tokens, .between⟩ = some ⟨tokens, .between⟩ := by
  induction n with
  | zero => rfl
  | succ n ih => exact ih

/-- A new line may follow a value, and leaves no token. -/
theorem Scanner.Settled.foldlM_indent {s : Scanner} {tokens : List Token} (h : s.Settled tokens) (level : Nat) :
    (indent level).foldlM Scanner.step s = some ⟨tokens, .between⟩ := by
  have hline : s.step '\n' = some ⟨tokens, .between⟩ := h.step _ (by decide)
  rw [indent, List.foldlM_cons, hline]
  exact foldlM_spaces _ tokens

/-- Wherever a value may begin, its layout is read as its tokens. -/
def Value.Scanned (v : Value) : Prop :=
  ∀ level tokens, ∃ s, (v.prettyChars level).foldlM Scanner.step ⟨tokens, .between⟩ = some s ∧
    s.Settled (v.tokens.reverse ++ tokens)

/-- After a value, a comma begins something new. -/
theorem Scanner.Settled.step_comma {s : Scanner} {tokens : List Token} (h : s.Settled tokens) :
    s.step ',' = some ⟨.comma :: tokens, .between⟩ := h.step _ (by decide)

theorem foldlM_prettyItems {items : List Value} (h : ∀ v ∈ items, v.Scanned) (hne : items ≠ []) (level : Nat)
    (tokens : List Token) :
    ∃ s, (prettyItems level items).foldlM Scanner.step ⟨tokens, .between⟩ = some s ∧
      s.Settled ((itemTokens items).reverse ++ tokens) := by
  induction items generalizing tokens with
  | nil => exact absurd rfl hne
  | cons v rest ih =>
    have hindent := (Scanner.settled_between tokens).foldlM_indent level
    obtain ⟨s, hs, hsettled⟩ := h v List.mem_cons_self level tokens
    cases rest with
    | nil =>
      have hlayout : prettyItems level [v] = indent level ++ v.prettyChars level := rfl
      rw [hlayout, foldlM_append_of_eq_some hindent]
      exact ⟨s, hs, hsettled⟩
    | cons w rest =>
      have hlayout : prettyItems level (v :: w :: rest) =
          indent level ++ (v.prettyChars level ++ ',' :: prettyItems level (w :: rest)) := List.append_assoc ..
      have htokens : itemTokens (v :: w :: rest) = v.tokens ++ Token.comma :: itemTokens (w :: rest) := rfl
      obtain ⟨s', hs', hsettled'⟩ :=
        ih (fun w hw => h w (List.mem_cons_of_mem _ hw)) (by simp) (.comma :: (v.tokens.reverse ++ tokens))
      rw [hlayout, foldlM_append_of_eq_some hindent, foldlM_append_of_eq_some hs, List.foldlM_cons, hsettled.step_comma]
      exact ⟨s', hs', by simpa [htokens] using hsettled'⟩

/-- The layout of a member's key and of what stands before its value. -/
theorem foldlM_key (level : Nat) (key : Text) (tokens : List Token) :
    (indent level ++ (literal key ++ [':', ' '])).foldlM Scanner.step ⟨tokens, .between⟩ =
      some ⟨.colon :: .string key :: tokens, .between⟩ := by
  rw [foldlM_append_of_eq_some ((Scanner.settled_between tokens).foldlM_indent level),
    foldlM_append_of_eq_some (foldlM_literal key tokens)]
  rfl

theorem foldlM_prettyMembers {members : List (Text × Value)} (h : ∀ m ∈ members, m.2.Scanned) (hne : members ≠ [])
    (level : Nat) (tokens : List Token) :
    ∃ s, (prettyMembers level members).foldlM Scanner.step ⟨tokens, .between⟩ = some s ∧
      s.Settled ((memberTokens members).reverse ++ tokens) := by
  induction members generalizing tokens with
  | nil => exact absurd rfl hne
  | cons m rest ih =>
    obtain ⟨key, v⟩ := m
    have hkey := foldlM_key level key tokens
    obtain ⟨s, hs, hsettled⟩ := h (key, v) List.mem_cons_self level (.colon :: .string key :: tokens)
    cases rest with
    | nil =>
      have hlayout : prettyMembers level [(key, v)] =
          indent level ++ (literal key ++ [':', ' ']) ++ v.prettyChars level := by simp [prettyMembers]
      have htokens : memberTokens [(key, v)] = [Token.string key, Token.colon] ++ v.tokens := rfl
      rw [hlayout, foldlM_append_of_eq_some hkey]
      exact ⟨s, hs, by simpa [htokens] using hsettled⟩
    | cons m rest =>
      have hlayout : prettyMembers level ((key, v) :: m :: rest) = indent level ++ (literal key ++ [':', ' ']) ++
          (v.prettyChars level ++ ',' :: prettyMembers level (m :: rest)) := by simp [prettyMembers]
      have htokens : memberTokens ((key, v) :: m :: rest) =
          [Token.string key, Token.colon] ++ (v.tokens ++ Token.comma :: memberTokens (m :: rest)) := rfl
      obtain ⟨s', hs', hsettled'⟩ := ih (fun m hm => h m (List.mem_cons_of_mem _ hm)) (by simp)
        (.comma :: (v.tokens.reverse ++ .colon :: .string key :: tokens))
      rw [hlayout, foldlM_append_of_eq_some hkey, foldlM_append_of_eq_some hs, List.foldlM_cons, hsettled.step_comma]
      exact ⟨s', hs', by simpa [htokens] using hsettled'⟩

/-- Brackets around some lines, the closing one on a line of its own. -/
theorem foldlM_bracketed {opening closing : Char} {first last : Token} {body : List Char} {s : Scanner}
    {tokens inside : List Token} (hopen : Scanner.enter tokens opening = some ⟨first :: tokens, .between⟩)
    (hbody : body.foldlM Scanner.step ⟨first :: tokens, .between⟩ = some s) (hs : s.Settled inside)
    (hclose : Scanner.enter inside closing = some ⟨last :: inside, .between⟩) (level : Nat) :
    (opening :: (body ++ (indent level ++ [closing]))).foldlM Scanner.step ⟨tokens, .between⟩ =
      some ⟨last :: inside, .between⟩ := by
  have hstep : Scanner.step ⟨tokens, .between⟩ opening = some ⟨first :: tokens, .between⟩ := hopen
  have hlast : [closing].foldlM Scanner.step ⟨inside, .between⟩ = some ⟨last :: inside, .between⟩ := by
    simp [Scanner.step, hclose]
  rw [List.foldlM_cons, hstep, Option.bind_eq_bind, Option.bind_some, foldlM_append_of_eq_some hbody,
    foldlM_append_of_eq_some (hs.foldlM_indent level), hlast]

theorem Value.Scanned.array {items : List Value} (h : ∀ v ∈ items, v.Scanned) : (Value.array items).Scanned := by
  intro level tokens
  cases items with
  | nil => exact ⟨_, rfl, Scanner.settled_between _⟩
  | cons v rest =>
    obtain ⟨s, hs, hsettled⟩ := foldlM_prettyItems h (by simp) (level + 1) (.openBracket :: tokens)
    have hlayout : (Value.array (v :: rest)).prettyChars level =
        '[' :: (prettyItems (level + 1) (v :: rest) ++ (indent level ++ [']'])) := by simp [Value.prettyChars]
    rw [hlayout, foldlM_bracketed rfl hs hsettled rfl level]
    exact ⟨_, rfl, by simpa [Value.tokens] using Scanner.settled_between _⟩

theorem Value.Scanned.object {members : List (Text × Value)} (h : ∀ m ∈ members, m.2.Scanned) :
    (Value.object members).Scanned := by
  intro level tokens
  cases members with
  | nil => exact ⟨_, rfl, Scanner.settled_between _⟩
  | cons m rest =>
    obtain ⟨s, hs, hsettled⟩ := foldlM_prettyMembers h (by simp) (level + 1) (.openBrace :: tokens)
    have hlayout : (Value.object (m :: rest)).prettyChars level =
        '\x7b' :: (prettyMembers (level + 1) (m :: rest) ++ (indent level ++ ['\x7d'])) := by simp [Value.prettyChars]
    rw [hlayout, foldlM_bracketed rfl hs hsettled rfl level]
    exact ⟨_, rfl, by simpa [Value.tokens] using Scanner.settled_between _⟩

/-- The layout of a value is read as its tokens. -/
theorem Value.Spelled.scanned {v : Value} (h : v.Spelled) : v.Scanned := by
  induction h with
  | null => exact fun level tokens => ⟨_, rfl, Scanner.settled_word rfl tokens⟩
  | bool b => cases b <;> exact fun level tokens => ⟨_, rfl, Scanner.settled_word rfl tokens⟩
  | number h =>
    rename_i spelling
    intro level tokens
    obtain ⟨digits, hd, hc⟩ := Option.any_eq_true .. |>.1 h
    have hsettled : Scanner.Settled ⟨tokens, .number spelling.toList digits⟩ _ := Scanner.settled_number hc tokens
    rw [String.ofList_toList] at hsettled
    exact ⟨_, foldlM_number hd tokens, hsettled⟩
  | string text => exact fun level tokens => ⟨_, foldlM_literal text tokens, Scanner.settled_between _⟩
  | array items _ ih => exact .array ih
  | object members _ ih => exact .object ih

/-- A value is read back from its layout over several lines. -/
theorem parse?_pretty {v : Value} (h : v.Spelled) : parse? v.pretty = some v := by
  obtain ⟨s, hs, hsettled⟩ := h.scanned 0 []
  have htokens : tokens? (v.prettyChars 0) = some v.tokens := by
    rw [tokens?, hs, Option.bind_some, hsettled.leave]
    simp
  rw [parse?, Value.pretty, String.toList_ofList, htokens, Option.bind_some, ofTokens?, Reader.start, h.read []]
  rfl

end TableDesk.Json
