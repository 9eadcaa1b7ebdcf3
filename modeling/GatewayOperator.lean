import GatewayOperator.Cluster.Server
import GatewayOperator.Configuration
import GatewayOperator.Controller
import GatewayOperator.Endpoint
import GatewayOperator.Main
import GatewayOperator.Session
import GatewayOperator.Proofs.Children.Labels
import GatewayOperator.Proofs.Cluster.StatusPatch
import GatewayOperator.Proofs.Configuration
import GatewayOperator.Proofs.Controller.Balance
import GatewayOperator.Proofs.Controller.Requeue
import GatewayOperator.Proofs.Gateway.RoundTrip
import GatewayOperator.Proofs.Pass.Checks
import GatewayOperator.Proofs.Pass.Conflict
import GatewayOperator.Proofs.Pass.Exclusive
import GatewayOperator.Proofs.Pass.Foreign
import GatewayOperator.Proofs.Pass.Interleaving
import GatewayOperator.Proofs.Pass.Log
import GatewayOperator.Proofs.Pass.Novelty
import GatewayOperator.Proofs.Pass.Overlooked
import GatewayOperator.Proofs.Pass.Ownership
import GatewayOperator.Proofs.Pass.Ready
import GatewayOperator.Proofs.Pass.Runs
import GatewayOperator.Proofs.Pass.Selection
import GatewayOperator.Proofs.Pass.Verdicts
import GatewayOperator.Proofs.Proxy.ApiKey
import GatewayOperator.Proofs.Proxy.Text
