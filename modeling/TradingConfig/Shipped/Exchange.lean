/-
  TradingConfig.Shipped.Exchange
  ────────────────────────────────
  **THE SHIPPED FILES OF THE EXCHANGE.**

  The data and the schema of the exchange that come with the program.  The
  schema asks for a time-out of at least a second, status codes from 100 to
  599 and distinct messages.
-/
import TradingConfig.Text.Lines

namespace TradingConfig.Shipped

/-- The shipped data file, line by line. -/
def exchangeData : String := textOfLines [
  "\x7b",
  "  \"exchange\": \x7b",
  "    \"name\": \"Bitstamp\",",
  "    \"adapter\": \"com.gazbert.bxbot.exchanges.BitstampExchangeAdapter\",",
  "    \"authentication-config\": \x7b",
  "      \"config-items\": [",
  "        \x7b",
  "          \"name\": \"client-id\",",
  "          \"value\": \"your-client-id\"",
  "        \x7d,",
  "        \x7b",
  "          \"name\": \"key\",",
  "          \"value\": \"your-api-key\"",
  "        \x7d,",
  "        \x7b",
  "          \"name\": \"secret\",",
  "          \"value\": \"your-secret-key\"",
  "        \x7d",
  "      ]",
  "    \x7d,",
  "    \"network-config\": \x7b",
  "      \"connection-timeout\": 15,",
  "      \"non-fatal-error-codes\": [502, 503, 520, 522, 525],",
  "      \"non-fatal-error-messages\": [",
  "        \"Connection reset\",",
  "        \"Connection refused\",",
  "        \"Remote host closed connection during handshake\",",
  "        \"Unexpected end of file from server\"",
  "      ]",
  "    \x7d,",
  "    \"other-config\": \x7b",
  "      \"config-items\": [",
  "        \x7b",
  "          \"name\": \"buy-fee\",",
  "          \"value\": \"0.25\"",
  "        \x7d,",
  "        \x7b",
  "          \"name\": \"sell-fee\",",
  "          \"value\": \"0.25\"",
  "        \x7d",
  "      ]",
  "    \x7d",
  "  \x7d",
  "\x7d"]

/-- The shipped schema file, line by line. -/
def exchangeSchema : String := textOfLines [
  "\x7b",
  "  \"$schema\": \"https://json-schema.org/draft/2020-12/schema\",",
  "  \"title\": \"Exchange adapter\",",
  "  \"type\": \"object\",",
  "  \"required\": [\"exchange\"],",
  "  \"additionalProperties\": false,",
  "  \"properties\": \x7b",
  "    \"exchange\": \x7b",
  "      \"type\": \"object\",",
  "      \"required\": [\"name\", \"adapter\", \"network-config\"],",
  "      \"additionalProperties\": false,",
  "      \"properties\": \x7b",
  "        \"name\": \x7b \"type\": \"string\", \"minLength\": 1 \x7d,",
  "        \"adapter\": \x7b \"type\": \"string\", \"minLength\": 1 \x7d,",
  "        \"authentication-config\": \x7b \"$ref\": \"#/$defs/configItems\" \x7d,",
  "        \"network-config\": \x7b",
  "          \"type\": \"object\",",
  "          \"required\": [\"connection-timeout\"],",
  "          \"additionalProperties\": false,",
  "          \"properties\": \x7b",
  "            \"connection-timeout\": \x7b \"type\": \"integer\", \"minimum\": 1 \x7d,",
  "            \"non-fatal-error-codes\": \x7b",
  "              \"type\": \"array\",",
  "              \"uniqueItems\": true,",
  "              \"items\": \x7b \"type\": \"integer\", \"minimum\": 100, \"maximum\": 599 \x7d",
  "            \x7d,",
  "            \"non-fatal-error-messages\": \x7b",
  "              \"type\": \"array\",",
  "              \"uniqueItems\": true,",
  "              \"items\": \x7b \"type\": \"string\", \"minLength\": 1 \x7d",
  "            \x7d",
  "          \x7d",
  "        \x7d,",
  "        \"other-config\": \x7b \"$ref\": \"#/$defs/configItems\" \x7d",
  "      \x7d",
  "    \x7d",
  "  \x7d,",
  "  \"$defs\": \x7b",
  "    \"configItems\": \x7b",
  "      \"type\": \"object\",",
  "      \"required\": [\"config-items\"],",
  "      \"additionalProperties\": false,",
  "      \"properties\": \x7b",
  "        \"config-items\": \x7b",
  "          \"type\": \"array\",",
  "          \"items\": \x7b",
  "            \"type\": \"object\",",
  "            \"required\": [\"name\", \"value\"],",
  "            \"additionalProperties\": false,",
  "            \"properties\": \x7b",
  "              \"name\": \x7b \"type\": \"string\", \"minLength\": 1 \x7d,",
  "              \"value\": \x7b \"type\": \"string\" \x7d",
  "            \x7d",
  "          \x7d",
  "        \x7d",
  "      \x7d",
  "    \x7d",
  "  \x7d",
  "\x7d"]

end TradingConfig.Shipped
