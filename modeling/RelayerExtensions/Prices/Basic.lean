import RelayerExtensions.Lib.Effect

/-!
# The price reporter's common types

Exchanges, pairs and errors (`price-reporter/src/utils/pair_info.rs`, `errors.rs` and
`exchanges/error.rs`). Two pairs are the same if exchange and tickers are; the chain, which
only says where to look up a ticker, is left out. Tokens are their tickers.
-/

namespace RelayerExtensions.Prices

inductive Exchange where
  | binance
  | coinbase
  | kraken
  | okx
  | uniswapV3
  | renegade
deriving DecidableEq

/-- What a price stream is identified by. -/
structure PairInfo where
  exchange : Exchange
  base : String
  quote : String
deriving DecidableEq

def PairInfo.isUnitPair (pair : PairInfo) : Bool := pair.base = pair.quote

inductive ExchangeConnectionError where
  | connectionHangup (msg : String)
  | crypto (msg : String)
  | handshakeFailure (msg : String)
  | rateLimited
  | invalidMessage (msg : String)
  | maxRetries (exchange : Exchange)
  | sendError (msg : String)
  | unsupportedExchange (exchange : Exchange)
  | unsupportedPair (base quote : String) (exchange : Exchange)
deriving DecidableEq

inductive ServerError where
  | invalidPairInfo (msg : String)
  | exchangeConnection (err : ExchangeConnectionError)
  | priceStreamClosed
deriving DecidableEq

/-- The price is the `0.0` a channel starts with. -/
def isZero (price : Float) : Bool := price == 0.0

end RelayerExtensions.Prices
