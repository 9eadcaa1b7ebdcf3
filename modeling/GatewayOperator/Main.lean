import GatewayOperator.ResourceDefinition.Basic

def main : IO Unit := IO.print GatewayOperator.ResourceDefinition.stream
