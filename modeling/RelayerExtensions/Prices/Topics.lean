import RelayerExtensions.Prices.Basic

/-!
# Topics

A client names a pair of tokens by a topic, `exchange-base-quote` with the mints of the tokens;
the quote may be left out for Renegade. A topic is resolved to the tickers by which streams are
kept, and the chain on which the mints were found (`price-reporter/src/utils/pair_info.rs`,
`utils/mod.rs`, and `handle_subscription_message` of `ws_server.rs`).

The maps from mints to tickers, one for each chain, are the library's. A map is a bijection, so
what has been resolved can be turned back into the tokens that were named. The parts of a topic
are taken by their positions, without a look at how many there are: a topic with too few of them
is not refused, it makes the task of its client panic.
-/

namespace RelayerExtensions.Prices

/-- A function that does not return a value returns an error, or panics. -/
inductive Stop where
  | error (err : ServerError)
  | panic
deriving DecidableEq

structure Token (χ : Type) where
  addr : String
  chain : χ
deriving DecidableEq

/-- A bijection between mints, on the left, and tickers. -/
structure TokenMap where
  getByLeft : String → Option String
  getByRight : String → Option String
  inverse : ∀ addr ticker, getByLeft addr = some ticker ↔ getByRight ticker = some addr

/-- Names of exchanges and tokens, lower case, and the token maps of the chains, which are
walked through in the order of the list. -/
structure TopicLib (χ : Type) where
  fromStr : String → Except String Exchange
  displayExchange : Exchange → String
  displayToken : Token χ → String
  toLowercase : String → String
  toLowercase_idem : ∀ s, toLowercase (toLowercase s) = toLowercase s
  chains : List χ
  tokenMap : χ → TokenMap
  defaultExchangeStable : Exchange → Token χ

def usdcTicker : String := "USDC"

/-- A pair together with its chain, which its identity leaves out. -/
structure ChainPair (χ : Type) extends PairInfo where
  chain : χ
deriving DecidableEq

abbrev PriceTopic (χ : Type) := Exchange × Token χ × Token χ

section

variable {χ : Type} [DecidableEq χ] (lib : TopicLib χ)

/-! ## Tokens -/

namespace Token

def fromAddrOnChain (addr : String) (chain : χ) : Token χ := ⟨lib.toLowercase addr, chain⟩

def fromTickerOnChain (ticker : String) (chain : χ) : Except Stop (Token χ) :=
  if chain ∈ lib.chains then
    match (lib.tokenMap chain).getByRight ticker with
    | some addr => .ok ⟨addr, chain⟩
    | none => .error .panic
  else .error .panic

def getTicker (token : Token χ) : Option String :=
  if token.chain ∈ lib.chains then (lib.tokenMap token.chain).getByLeft token.addr else none

/-- The ticker, with the error that its callers return if there is none. -/
def tickerOrError (token : Token χ) : Except Stop String :=
  match token.getTicker lib with
  | some ticker => .ok ticker
  | none =>
      .error (.error (.invalidPairInfo ("unable to get ticker for " ++ lib.displayToken token)))

end Token

def getTokenAndChain (addr : String) : Option (Token χ × χ) :=
  let addr := lib.toLowercase addr
  (lib.chains.find? fun chain => ((lib.tokenMap chain).getByLeft addr).isSome).map
    fun chain => (Token.fromAddrOnChain lib addr chain, chain)

def resolveTokensAndChain (baseMint quoteMint : String) : Option (Token χ × Token χ × χ) :=
  let baseLower := lib.toLowercase baseMint
  let quoteLower := lib.toLowercase quoteMint
  (lib.chains.find? fun chain => ((lib.tokenMap chain).getByLeft baseLower).isSome &&
      ((lib.tokenMap chain).getByLeft quoteLower).isSome).map
    fun chain => (Token.fromAddrOnChain lib baseLower chain,
      Token.fromAddrOnChain lib quoteLower chain, chain)

def defaultExchangeStable (exchange : Exchange) (chain : χ) : Except Stop (Token χ) :=
  if exchange = .renegade then Token.fromTickerOnChain lib usdcTicker chain
  else
    match (lib.defaultExchangeStable exchange).getTicker lib with
    | some ticker => Token.fromTickerOnChain lib ticker chain
    | none => .error .panic

/-! ## Pairs -/

namespace ChainPair

def newFromTokens (exchange : Exchange) (base quote : Token χ) : Except Stop (ChainPair χ) :=
  if base.chain ≠ quote.chain then .error .panic
  else do
    let baseTicker ← base.tickerOrError lib
    let quoteTicker ← quote.tickerOrError lib
    .ok ⟨⟨exchange, baseTicker, quoteTicker⟩, quote.chain⟩

def newDefaultStable (exchange : Exchange) (baseMint : String) : Except Stop (ChainPair χ) :=
  match getTokenAndChain lib baseMint with
  | none => .error (.error (.invalidPairInfo ("invalid token `" ++ baseMint ++ "`")))
  | some (base, chain) => do
      let quote ← defaultExchangeStable lib exchange chain
      newFromTokens lib exchange base quote

def baseToken (pair : ChainPair χ) : Except Stop (Token χ) :=
  Token.fromTickerOnChain lib pair.base pair.chain

def quoteToken (pair : ChainPair χ) : Except Stop (Token χ) :=
  Token.fromTickerOnChain lib pair.quote pair.chain

def toPriceTopic (pair : ChainPair χ) : Except Stop (PriceTopic χ) := do
  let base ← pair.baseToken lib
  let quote ← pair.quoteToken lib
  .ok (pair.exchange, base, quote)

def enforceUsdc (token : Token χ) : Except Stop Unit := do
  let ticker ← token.tickerOrError lib
  if ticker ≠ usdcTicker then
    .error (.error (.invalidPairInfo ("expected USDC, got " ++ ticker)))
  else .ok ()

end ChainPair

/-! ## Topics -/

def topicParts (topic : String) : List String := (topic.toList.splitOn '-').map String.ofList

/-- The part at a position; there has to be one. -/
def partAt (parts : List String) (i : Nat) : Except Stop String :=
  match parts[i]? with
  | some part => .ok part
  | none => .error .panic

/-- The rest of `from_topic`, for a topic with a quote. -/
def ChainPair.fromMints (exchange : Exchange) (baseMint quoteMint : String) :
    Except Stop (ChainPair χ) :=
  match resolveTokensAndChain lib baseMint quoteMint with
  | some (base, quote, _) => do
      if exchange = .renegade then enforceUsdc lib quote
      newFromTokens lib exchange base quote
  | none =>
      .error (.error (.invalidPairInfo
        ("invalid token pair `" ++ baseMint ++ "`-`" ++ quoteMint ++ "`")))

def ChainPair.fromTopic (topic : String) : Except Stop (ChainPair χ) := do
  let parts := topicParts topic
  let name ← partAt parts 0
  let exchange ← (lib.fromStr name).mapError fun msg => .error (.invalidPairInfo msg)
  let baseMint ← partAt parts 1
  if exchange = .renegade ∧ parts.length = 2 then newDefaultStable lib exchange baseMint
  else do
    let quoteMint ← partAt parts 2
    fromMints lib exchange baseMint quoteMint

/-! ## What a topic is to be resolved to -/

/-- The pair is the one that the topic names, on one chain, and in USDC for Renegade. -/
structure Resolved (topic : String) (pair : ChainPair χ) : Prop where
  exchange : ∃ name, (topicParts topic)[0]? = some name ∧ lib.fromStr name = .ok pair.exchange
  base : ∃ mint, (topicParts topic)[1]? = some mint ∧
    pair.baseToken lib = .ok ⟨lib.toLowercase mint, pair.chain⟩
  quote : ∃ addr, pair.quoteToken lib = .ok ⟨addr, pair.chain⟩
  quoteMint : ∀ mint, (topicParts topic)[2]? = some mint →
    pair.quoteToken lib = .ok ⟨lib.toLowercase mint, pair.chain⟩
  usdc : pair.exchange = .renegade → pair.quote = usdcTicker

/-- The base, if it is known, is found on a chain that has USDC. -/
def UsdcBeside (baseMint : String) : Prop :=
  ∀ base chain, getTokenAndChain lib baseMint = some (base, chain) →
    ((lib.tokenMap chain).getByRight usdcTicker).isSome = true

/-- A topic that names an exchange has all of its parts. The quote may be missing if it is
Renegade, and USDC is there to take its place. -/
def Complete (topic : String) : Prop :=
  ∀ name exchange, (topicParts topic)[0]? = some name → lib.fromStr name = .ok exchange →
    3 ≤ (topicParts topic).length ∨
      exchange = .renegade ∧ ∃ baseMint, topicParts topic = [name, baseMint] ∧
        UsdcBeside lib baseMint

variable {lib}

/-! ## Tokens and tickers -/

namespace Token

variable {ticker : String}

theorem getTicker_eq_some {token : Token χ} :
    token.getTicker lib = some ticker ↔
      token.chain ∈ lib.chains ∧ (lib.tokenMap token.chain).getByLeft token.addr = some ticker :=
  Option.ite_none_right_eq_some

/-- **From a mint to its ticker and back.** -/
theorem fromTickerOnChain_of_getTicker {token : Token χ} (h : token.getTicker lib = some ticker) :
    fromTickerOnChain lib ticker token.chain = .ok token := by
  obtain ⟨hmem, hleft⟩ := getTicker_eq_some.mp h
  unfold fromTickerOnChain
  rw [if_pos hmem, ((lib.tokenMap token.chain).inverse _ _).mp hleft]

/-- From a ticker to a mint and back. -/
theorem getTicker_of_getByRight {addr ticker : String} {chain : χ} (hmem : chain ∈ lib.chains)
    (h : (lib.tokenMap chain).getByRight ticker = some addr) :
    getTicker lib ⟨addr, chain⟩ = some ticker :=
  getTicker_eq_some.mpr ⟨hmem, ((lib.tokenMap chain).inverse _ _).mpr h⟩

theorem fromTickerOnChain_none {chain : χ} (h : (lib.tokenMap chain).getByRight ticker = none) :
    fromTickerOnChain lib ticker chain = .error .panic := by
  unfold fromTickerOnChain
  rw [h]
  split <;> rfl

theorem tickerOrError_of_getTicker {token : Token χ}
    (h : token.getTicker lib = some ticker) : token.tickerOrError lib = .ok ticker := by
  unfold tickerOrError
  rw [h]

omit [DecidableEq χ] in
theorem fromAddrOnChain_lower (addr : String) (chain : χ) :
    fromAddrOnChain lib (lib.toLowercase addr) chain = ⟨lib.toLowercase addr, chain⟩ := by
  unfold fromAddrOnChain
  rw [lib.toLowercase_idem]

end Token

/-- A token that is found has a ticker. -/
theorem getTokenAndChain_some {mint : String} {base : Token χ} {chain : χ}
    (h : getTokenAndChain lib mint = some (base, chain)) :
    base = ⟨lib.toLowercase mint, chain⟩ ∧ chain ∈ lib.chains ∧
      ∃ ticker, base.getTicker lib = some ticker := by
  obtain ⟨c, hfind, heq⟩ := Option.map_eq_some_iff.mp h
  rw [Token.fromAddrOnChain_lower] at heq
  cases heq
  have hmem := List.mem_of_find?_eq_some hfind
  have hfound := List.find?_some hfind
  obtain ⟨ticker, hticker⟩ := Option.isSome_iff_exists.mp hfound
  exact ⟨rfl, hmem, ticker, Token.getTicker_eq_some.mpr ⟨hmem, hticker⟩⟩

theorem resolveTokensAndChain_some {baseMint quoteMint : String} {base quote : Token χ} {chain : χ}
    (h : resolveTokensAndChain lib baseMint quoteMint = some (base, quote, chain)) :
    base = ⟨lib.toLowercase baseMint, chain⟩ ∧ quote = ⟨lib.toLowercase quoteMint, chain⟩ ∧
      (∃ ticker, base.getTicker lib = some ticker) ∧
      ∃ ticker, quote.getTicker lib = some ticker := by
  obtain ⟨c, hfind, heq⟩ := Option.map_eq_some_iff.mp h
  rw [Token.fromAddrOnChain_lower, Token.fromAddrOnChain_lower] at heq
  cases heq
  have hmem := List.mem_of_find?_eq_some hfind
  have hfound := List.find?_some hfind
  obtain ⟨hbase, hquote⟩ := Bool.and_eq_true_iff.mp hfound
  obtain ⟨bt, hbase⟩ := Option.isSome_iff_exists.mp hbase
  obtain ⟨qt, hquote⟩ := Option.isSome_iff_exists.mp hquote
  exact ⟨rfl, rfl, ⟨bt, Token.getTicker_eq_some.mpr ⟨hmem, hbase⟩⟩,
    qt, Token.getTicker_eq_some.mpr ⟨hmem, hquote⟩⟩

namespace ChainPair

theorem newFromTokens_eq {exchange : Exchange} {base quote : Token χ} {bt qt : String}
    (hchain : base.chain = quote.chain) (hbase : base.getTicker lib = some bt)
    (hquote : quote.getTicker lib = some qt) :
    newFromTokens lib exchange base quote = .ok ⟨⟨exchange, bt, qt⟩, quote.chain⟩ := by
  unfold newFromTokens
  rw [if_neg (not_not_intro hchain), Token.tickerOrError_of_getTicker hbase,
    Token.tickerOrError_of_getTicker hquote]
  rfl

/-! ## Topics, by their parts -/

theorem topicParts_ne_nil (topic : String) : topicParts topic ≠ [] := by
  intro h
  exact List.splitOn_ne_nil _ _ (List.map_eq_nil_iff.mp h)

section

variable {topic name baseMint quoteMint : String} {rest : List String} {exchange : Exchange}

/-- An exchange that is not known is refused before anything else. -/
theorem fromTopic_of_not_exchange {msg : String} (hparts : topicParts topic = name :: rest)
    (hname : lib.fromStr name = .error msg) :
    fromTopic lib topic = .error (.error (.invalidPairInfo msg)) := by
  unfold fromTopic
  rw [hparts]
  change ((lib.fromStr name).mapError _ >>= _) = _
  rw [hname]
  rfl

theorem fromTopic_of_no_base (hparts : topicParts topic = [name])
    (hname : lib.fromStr name = .ok exchange) : fromTopic lib topic = .error .panic := by
  unfold fromTopic
  rw [hparts]
  change ((lib.fromStr name).mapError _ >>= _) = _
  rw [hname]
  rfl

theorem fromTopic_of_no_quote (hparts : topicParts topic = [name, baseMint])
    (hname : lib.fromStr name = .ok exchange) :
    fromTopic lib topic =
      if exchange = .renegade then newDefaultStable lib exchange baseMint
      else .error .panic := by
  unfold fromTopic
  rw [hparts]
  change ((lib.fromStr name).mapError _ >>= _) = _
  rw [hname]
  by_cases h : exchange = .renegade
  · rw [if_pos h]
    exact if_pos ⟨h, rfl⟩
  · rw [if_neg h]
    exact if_neg fun h' => h h'.1

theorem fromTopic_of_quote (hparts : topicParts topic = name :: baseMint :: quoteMint :: rest)
    (hname : lib.fromStr name = .ok exchange) :
    fromTopic lib topic = fromMints lib exchange baseMint quoteMint := by
  unfold fromTopic
  rw [hparts]
  change ((lib.fromStr name).mapError _ >>= _) = _
  rw [hname]
  exact if_neg fun h => absurd h.2 (by simp)

end

/-! ## Every topic that is complete is answered -/

/-- The answer is not a panic, and a pair only if it is the right one. -/
def Answers (lib : TopicLib χ) (topic : String) (res : Except Stop (ChainPair χ)) : Prop :=
  res ≠ .error .panic ∧ ∀ pair, res = .ok pair → Resolved lib topic pair

section

variable {topic name baseMint quoteMint : String} {rest : List String} {exchange : Exchange}

theorem answers_error (lib : TopicLib χ) (topic : String) (err : ServerError) :
    Answers lib topic (.error (.error err)) := by
  refine ⟨fun h => ?_, fun pair h => ?_⟩ <;> cases h

theorem answers_ok {pair : ChainPair χ} (h : Resolved lib topic pair) :
    Answers lib topic (.ok pair) := by
  refine ⟨fun h => ?_, fun pair' h' => ?_⟩
  · cases h
  · cases h'
    exact h

/-- A pair made of two tokens on one chain. -/
theorem resolved_of_tokens {base quote : Token χ} {bt qt : String}
    (hname : (topicParts topic)[0]? = some name) (hexchange : lib.fromStr name = .ok exchange)
    (hmint : (topicParts topic)[1]? = some baseMint)
    (haddr : base = ⟨lib.toLowercase baseMint, quote.chain⟩)
    (hquoteMint : ∀ mint, (topicParts topic)[2]? = some mint → quote.addr = lib.toLowercase mint)
    (hbase : base.getTicker lib = some bt) (hquote : quote.getTicker lib = some qt)
    (husdc : exchange = .renegade → qt = usdcTicker) :
    Resolved lib topic ⟨⟨exchange, bt, qt⟩, quote.chain⟩ := by
  have hquoteToken := Token.fromTickerOnChain_of_getTicker hquote
  refine ⟨⟨name, hname, hexchange⟩, ⟨baseMint, hmint, ?_⟩, ⟨quote.addr, hquoteToken⟩,
    fun mint h => ?_, husdc⟩
  · subst haddr
    exact Token.fromTickerOnChain_of_getTicker hbase
  · rw [← hquoteMint mint h]
    exact hquoteToken

theorem enforceUsdc_eq {token : Token χ} {ticker : String} (h : token.getTicker lib = some ticker) :
    enforceUsdc lib token =
      if ticker ≠ usdcTicker then
        .error (.error (.invalidPairInfo ("expected USDC, got " ++ ticker)))
      else .ok () := by
  unfold enforceUsdc
  rw [Token.tickerOrError_of_getTicker h]
  rfl

/-- With a quote there is always an answer. -/
theorem answers_fromMints (hparts : topicParts topic = name :: baseMint :: quoteMint :: rest)
    (hname : lib.fromStr name = .ok exchange) :
    Answers lib topic (fromMints lib exchange baseMint quoteMint) := by
  unfold fromMints
  split
  · next base quote chain hres =>
      obtain ⟨hbase, hquote, ⟨bt, hbt⟩, qt, hqt⟩ := resolveTokensAndChain_some hres
      have hresolved : (exchange = .renegade → qt = usdcTicker) →
          Resolved lib topic ⟨⟨exchange, bt, qt⟩, quote.chain⟩ := by
        refine resolved_of_tokens (by rw [hparts]; rfl) hname (by rw [hparts]; rfl) ?_ ?_ hbt hqt
        · rw [hbase, hquote]
        · intro mint hmint
          rw [hparts] at hmint
          cases hmint
          rw [hquote]
      rw [newFromTokens_eq (by rw [hbase, hquote]) hbt hqt, enforceUsdc_eq hqt]
      by_cases hex : exchange = .renegade
      · rw [if_pos hex]
        by_cases husdc : qt = usdcTicker
        · rw [if_neg (not_not_intro husdc)]
          exact answers_ok (hresolved fun _ => husdc)
        · rw [if_pos husdc]
          exact answers_error lib topic _
      · rw [if_neg hex]
        exact answers_ok (hresolved fun h => absurd h hex)
  · exact answers_error lib topic _

/-- Without one, USDC has to be on the chain of the base. -/
theorem newDefaultStable_cases (hparts : topicParts topic = [name, baseMint])
    (hname : lib.fromStr name = .ok .renegade) :
    Answers lib topic (newDefaultStable lib .renegade baseMint) ∧ UsdcBeside lib baseMint ∨
      newDefaultStable lib .renegade baseMint = .error .panic ∧ ¬ UsdcBeside lib baseMint := by
  unfold newDefaultStable
  split
  · next hnone =>
      refine .inl ⟨answers_error lib topic _, fun base chain h => ?_⟩
      rw [hnone] at h
      cases h
  · next base chain hsome =>
      obtain ⟨hbase, hmem, bt, hbt⟩ := getTokenAndChain_some hsome
      unfold defaultExchangeStable
      rw [if_pos rfl]
      cases husdc : (lib.tokenMap chain).getByRight usdcTicker with
      | none =>
          rw [Token.fromTickerOnChain_none husdc]
          refine .inr ⟨rfl, fun h => ?_⟩
          have hlisted := h base chain hsome
          rw [husdc] at hlisted
          cases hlisted
      | some addr =>
          have hqt := Token.getTicker_of_getByRight hmem husdc
          rw [Token.fromTickerOnChain_of_getTicker hqt]
          refine .inl ⟨?_, fun base' chain' h => ?_⟩
          · change Answers lib topic (newFromTokens lib .renegade base ⟨addr, chain⟩)
            rw [newFromTokens_eq (by rw [hbase]) hbt hqt]
            refine answers_ok (resolved_of_tokens (by rw [hparts]; rfl) hname
              (by rw [hparts]; rfl) hbase (fun mint hmint => ?_) hbt hqt fun _ => rfl)
            rw [hparts] at hmint
            cases hmint
          · rw [hsome] at h
            cases h
            rw [husdc]
            rfl

omit [DecidableEq χ] in
theorem complete_of_not_exchange {msg : String} (hparts : topicParts topic = name :: rest)
    (hname : lib.fromStr name = .error msg) : Complete lib topic := by
  intro name' exchange' hname' hok
  rw [hparts] at hname'
  cases hname'
  rw [hname] at hok
  cases hok

omit [DecidableEq χ] in
theorem complete_iff (hparts : topicParts topic = name :: rest)
    (hname : lib.fromStr name = .ok exchange) :
    Complete lib topic ↔ 3 ≤ (name :: rest).length ∨
      exchange = .renegade ∧ ∃ baseMint, name :: rest = [name, baseMint] ∧
        UsdcBeside lib baseMint := by
  unfold Complete
  rw [hparts]
  constructor
  · intro h
    exact h name exchange rfl hname
  · intro h name' exchange' hname' hok
    cases hname'
    rw [hname] at hok
    cases hok
    exact h

/-- Complete topics are answered; all others make the task panic. -/
theorem fromTopic_cases (lib : TopicLib χ) (topic : String) :
    Answers lib topic (fromTopic lib topic) ∧ Complete lib topic ∨
      fromTopic lib topic = .error .panic ∧ ¬ Complete lib topic := by
  obtain ⟨name, rest, hparts⟩ := List.exists_cons_of_ne_nil (topicParts_ne_nil topic)
  cases hname : lib.fromStr name with
  | error msg =>
      rw [fromTopic_of_not_exchange hparts hname]
      exact .inl ⟨answers_error lib topic _, complete_of_not_exchange hparts hname⟩
  | ok exchange =>
      rw [complete_iff hparts hname]
      -- by the number of parts: one, two, or more
      rcases rest with _ | ⟨baseMint, _ | ⟨quoteMint, rest⟩⟩
      · rw [fromTopic_of_no_base hparts hname]
        refine .inr ⟨rfl, ?_⟩
        rintro (hlen | ⟨-, baseMint, h, -⟩)
        · exact absurd hlen (by simp)
        · cases h
      · rw [fromTopic_of_no_quote hparts hname]
        by_cases hex : exchange = .renegade
        · subst hex
          rw [if_pos rfl]
          rcases newDefaultStable_cases hparts hname with ⟨hanswers, husdc⟩ | ⟨hpanic, husdc⟩
          · exact .inl ⟨hanswers, .inr ⟨rfl, baseMint, rfl, husdc⟩⟩
          · refine .inr ⟨hpanic, ?_⟩
            rintro (hlen | ⟨-, baseMint', h, hbeside⟩)
            · exact absurd hlen (by simp)
            · cases h
              exact husdc hbeside
        · rw [if_neg hex]
          refine .inr ⟨rfl, ?_⟩
          rintro (hlen | ⟨h, -⟩)
          · exact absurd hlen (by simp)
          · exact hex h
      · rw [fromTopic_of_quote hparts hname]
        exact .inl ⟨answers_fromMints hparts hname, .inl (Nat.le_add_left 3 rest.length)⟩

/-- **A topic is answered, and with the pair that it names if with any, exactly if it is
complete.** -/
theorem fromTopic_answers_iff (lib : TopicLib χ) (topic : String) :
    Answers lib topic (fromTopic lib topic) ↔ Complete lib topic := by
  rcases fromTopic_cases lib topic with ⟨hanswers, hcomplete⟩ | ⟨hpanic, hcomplete⟩
  · exact iff_of_true hanswers hcomplete
  · exact iff_of_false (fun h => h.1 hpanic) hcomplete

end

/-! ## A chain with two tokens -/

def twoTokens : TokenMap where
  getByLeft addr :=
    if addr = "0xa" then some "WETH" else if addr = "0xb" then some usdcTicker else none
  getByRight ticker :=
    if ticker = "WETH" then some "0xa" else if ticker = usdcTicker then some "0xb" else none
  inverse := by
    intro addr ticker
    have hne : usdcTicker ≠ "WETH" := by decide
    constructor
    · intro h
      grind
    · intro h
      grind

def twoTokenLib : TopicLib Nat where
  fromStr name :=
    if name = "binance" then .ok .binance
    else if name = "renegade" then .ok .renegade
    else .error name
  displayExchange _ := ""
  displayToken := Token.addr
  toLowercase := id
  toLowercase_idem _ := rfl
  chains := [1]
  tokenMap _ := twoTokens
  defaultExchangeStable _ := ⟨"0xb", 1⟩

example : (fromTopic twoTokenLib "renegade-0xa").toOption =
    some ⟨⟨.renegade, "WETH", "USDC"⟩, 1⟩ := by decide +kernel

/-- An exchange alone, and an exchange with a base, as a client of Renegade would write it. -/
theorem fromTopic_panics :
    fromTopic twoTokenLib "binance" = .error .panic ∧
      fromTopic twoTokenLib "binance-0xa" = .error .panic ∧
      ¬ Answers twoTokenLib "binance-0xa" (fromTopic twoTokenLib "binance-0xa") := by
  have hone : fromTopic twoTokenLib "binance" = .error .panic :=
    fromTopic_of_no_base (show topicParts "binance" = ["binance"] by decide +kernel) rfl
  have hparts : topicParts "binance-0xa" = ["binance", "0xa"] := by decide +kernel
  have hname : twoTokenLib.fromStr "binance" = .ok .binance := rfl
  have htwo : fromTopic twoTokenLib "binance-0xa" = .error .panic := by
    rw [fromTopic_of_no_quote hparts hname]
    rfl
  exact ⟨hone, htwo, fun h => h.1 htwo⟩

end ChainPair

/-! ## Subscriptions -/

inductive WebsocketMessage where
  | subscribe (topic : String)
  | unsubscribe (topic : String)

def WebsocketMessage.topic : WebsocketMessage → String
  | .subscribe topic => topic
  | .unsubscribe topic => topic

def getPriceTopicStr (lib : TopicLib χ) (topic : PriceTopic χ) : String :=
  lib.displayExchange topic.1 ++ "-" ++ lib.displayToken topic.2.1 ++ "-" ++
    lib.displayToken topic.2.2

def getSubscribedTopics (lib : TopicLib χ) (subscriptions : List (PriceTopic χ)) : List String :=
  subscriptions.map (getPriceTopicStr lib)

/-- The subscriptions of a client, and the response; `getOrCreatePriceStream` is what the global
streams say. An error leaves the subscriptions as they were. -/
def handleSubscriptionMessage (lib : TopicLib χ)
    (getOrCreatePriceStream : PairInfo → Except ServerError Unit)
    (subscriptions : List (PriceTopic χ)) :
    WebsocketMessage → Except Stop (List (PriceTopic χ) × List String)
  | .subscribe topic => do
      let pair ← ChainPair.fromTopic lib topic
      let _ ← (getOrCreatePriceStream pair.toPairInfo).mapError Stop.error
      let key ← pair.toPriceTopic lib
      let subscriptions := key :: subscriptions.filter (· ≠ key)
      .ok (subscriptions, getSubscribedTopics lib subscriptions)
  | .unsubscribe topic => do
      let pair ← ChainPair.fromTopic lib topic
      let key ← pair.toPriceTopic lib
      let subscriptions := subscriptions.filter (· ≠ key)
      .ok (subscriptions, getSubscribedTopics lib subscriptions)

section

variable {getOrCreatePriceStream : PairInfo → Except ServerError Unit}
  {subscriptions : List (PriceTopic χ)} {topic : String}

/-- A pair that came from a topic has its tokens. -/
theorem Resolved.toPriceTopic {pair : ChainPair χ} (h : Resolved lib topic pair) :
    ∃ key, pair.toPriceTopic lib = .ok key := by
  obtain ⟨mint, -, hbase⟩ := h.base
  obtain ⟨addr, hquote⟩ := h.quote
  unfold ChainPair.toPriceTopic
  rw [hbase, hquote]
  exact ⟨_, rfl⟩

/-- A topic that is answered is no reason for the handler to panic. -/
theorem handleSubscriptionMessage_ne_panic {message : WebsocketMessage}
    (h : ChainPair.Answers lib message.topic (ChainPair.fromTopic lib message.topic)) :
    handleSubscriptionMessage lib getOrCreatePriceStream subscriptions message ≠
      .error .panic := by
  intro hpanic
  cases message with
  | subscribe topic =>
      rcases Effect.bind_error hpanic with hpanic | ⟨pair, hpair, hpanic⟩
      · exact h.1 hpanic
      obtain ⟨key, hkey⟩ := (h.2 pair hpair).toPriceTopic
      rcases Effect.bind_error hpanic with hpanic | ⟨_, -, hpanic⟩
      · cases hres : getOrCreatePriceStream pair.toPairInfo with
        | error e | ok u => rw [hres] at hpanic; cases hpanic
      · rw [hkey] at hpanic
        cases hpanic
  | unsubscribe topic =>
      rcases Effect.bind_error hpanic with hpanic | ⟨pair, hpair, hpanic⟩
      · exact h.1 hpanic
      obtain ⟨key, hkey⟩ := (h.2 pair hpair).toPriceTopic
      rw [hkey] at hpanic
      cases hpanic

/-- The handler panics on the topics that are not complete, and on no others. -/
theorem handleSubscriptionMessage_panics_iff (message : WebsocketMessage) :
    handleSubscriptionMessage lib getOrCreatePriceStream subscriptions message =
      .error .panic ↔ ¬ Complete lib message.topic := by
  rcases ChainPair.fromTopic_cases lib message.topic with
    ⟨hanswers, hcomplete⟩ | ⟨hpanic, hcomplete⟩
  · exact iff_of_false (handleSubscriptionMessage_ne_panic hanswers) (not_not_intro hcomplete)
  · refine iff_of_true ?_ hcomplete
    cases message with
    | subscribe topic | unsubscribe topic => exact congrArg (· >>= _) hpanic

end

end

end RelayerExtensions.Prices
