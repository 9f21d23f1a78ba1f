/-
  TradingConfig.Shipped.Markets
  ────────────────────────────────
  **THE SHIPPED FILES OF THE MARKETS.**

  The data and the schema of the markets that come with the program.  The
  schema asks for every member, and for texts that are not empty.
-/
import TradingConfig.Text.Lines

namespace TradingConfig.Shipped

/-- The shipped data file, line by line. -/
def marketsData : String := textOfLines [
  "\x7b",
  "  \"markets\": [",
  "    \x7b",
  "      \"id\": \"btc_usd\",",
  "      \"name\": \"BTC/USD\",",
  "      \"base-currency\": \"BTC\",",
  "      \"counter-currency\": \"USD\",",
  "      \"enabled\": true,",
  "      \"trading-strategy-id\": \"scalping-strategy\"",
  "    \x7d,",
  "    \x7b",
  "      \"id\": \"btc_gbp\",",
  "      \"name\": \"BTC/GBP\",",
  "      \"base-currency\": \"BTC\",",
  "      \"counter-currency\": \"GBP\",",
  "      \"enabled\": false,",
  "      \"trading-strategy-id\": \"macd-long-position\"",
  "    \x7d",
  "  ]",
  "\x7d"]

/-- The shipped schema file, line by line. -/
def marketsSchema : String := textOfLines [
  "\x7b",
  "  \"$schema\": \"https://json-schema.org/draft/2020-12/schema\",",
  "  \"title\": \"Markets\",",
  "  \"type\": \"object\",",
  "  \"required\": [\"markets\"],",
  "  \"additionalProperties\": false,",
  "  \"properties\": \x7b",
  "    \"markets\": \x7b",
  "      \"type\": \"array\",",
  "      \"items\": \x7b",
  "        \"type\": \"object\",",
  "        \"required\": [\"id\", \"name\", \"base-currency\", \"counter-currency\", \"enabled\", \"trading-strategy-id\"],",
  "        \"additionalProperties\": false,",
  "        \"properties\": \x7b",
  "          \"id\": \x7b \"type\": \"string\", \"minLength\": 1 \x7d,",
  "          \"name\": \x7b \"type\": \"string\", \"minLength\": 1 \x7d,",
  "          \"base-currency\": \x7b \"type\": \"string\", \"minLength\": 1 \x7d,",
  "          \"counter-currency\": \x7b \"type\": \"string\", \"minLength\": 1 \x7d,",
  "          \"enabled\": \x7b \"type\": \"boolean\" \x7d,",
  "          \"trading-strategy-id\": \x7b \"type\": \"string\", \"minLength\": 1 \x7d",
  "        \x7d",
  "      \x7d",
  "    \x7d",
  "  \x7d",
  "\x7d"]

end TradingConfig.Shipped
